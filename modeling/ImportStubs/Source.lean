import ImportStubs.Text

/-!
# Sources

A path leads to a file with its bytes, or there is a reason why it does not, which is reported with
the path. A text that no system takes for a path is refused before that.
-/

namespace ImportStubs

inductive PathFault where
  /-- A surrogate stands alone and stands for no byte. -/
  | unencodable
  | nullCharacter
deriving DecidableEq, Repr

def PathFault.message? : PathFault → Option Text
  | unencodable => none
  | nullCharacter => some "embedded null byte"

namespace Source

inductive Failure where
  | missing
  | directory
  /-- The path goes on after the name of a file. -/
  | throughFile
  | nameTooLong
deriving DecidableEq, Repr, Inhabited

def Failure.reason : Failure → String
  | missing => "No such file or directory"
  | directory => "Is a directory"
  | throughFile => "Not a directory"
  | nameTooLong => "File name too long"

def Failure.number : Failure → Nat
  | missing => 2
  | directory => 21
  | throughFile => 20
  | nameTooLong => 36

end Source

inductive Source where
  | file (bytes : List UInt8)
  | unreadable (failure : Source.Failure)
deriving DecidableEq, Repr, Inhabited

namespace Source

/-- A byte beyond ASCII that is no part of UTF-8 is a surrogate in a path. -/
def isStrayByte (c : CodePoint) : Bool := 0xDC80 ≤ c.value && c.value ≤ 0xDCFF

def checkPath (path : Text) : Except PathFault Unit :=
  if path.any fun c => c.isSurrogate && !isStrayByte c then .error .unencodable
  else if path.contains (.char '\x00') then .error .nullCharacter
  else .ok ()

def isPath (path : Text) : Bool := (checkPath path).isOk

def read : Source → Except Failure (List UInt8)
  | file bytes => .ok bytes
  | unreadable failure => .error failure

/-- A file can be written to, and one that is missing can be made. -/
def checkWritable : Source → Except Failure Unit
  | file _ | unreadable .missing => .ok ()
  | unreadable failure => .error failure

/-- The file with more bytes at its end. -/
def append (more : List UInt8) : Source → Source
  | file bytes => .file (bytes ++ more)
  | unreadable .missing => .file more
  | source => source

/-- A path without the parts that lead nowhere. Two slashes in front are not the same as one. -/
def plainPath (path : Text) : Text :=
  let slashes := (path.takeWhile (· = .char '/')).length
  let root : Text := if slashes = 0 then [] else if slashes = 2 then "//" else "/"
  let parts := (path.splitOn (.char '/')).filter fun part => !part.isEmpty && !Text.is part "."
  let plain := root ++ Text.join "/" parts
  if plain.isEmpty then "." else plain

end Source
end ImportStubs
