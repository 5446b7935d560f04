import ImportStubs.Number.Numeral
import ImportStubs.Source
import ImportStubs.Text.Utf8

/-!
# Arguments of the command

The command takes the path of a binary and options, in any order. A long option has its value after
an equals sign or in the next argument; short options can share one dash, and one with a value takes
what is left of the argument or the next one. Two dashes end the options. Of an option that is given
twice, the last value counts.
-/

namespace ImportStubs.Command

inductive OptionKey where
  | db
  | config
  | chunkSize
  | json
  | verbose
  | help
deriving DecidableEq, Repr

namespace OptionKey

def takesValue : OptionKey → Bool
  | db | config | chunkSize => true
  | json | verbose | help => false

def longNames : List (String × OptionKey) :=
  [("--db", db), ("--config", config), ("--chunk-size", chunkSize), ("--json", json),
    ("--verbose", verbose), ("--help", help)]

def shortNames : List (Char × OptionKey) := [('d', db), ('c', config), ('v', verbose)]

/-- The long name. -/
def name (key : OptionKey) : String := ((longNames.find? fun n => n.2 = key).map Prod.fst).getD ""

def ofLong? (name : Text) : Option OptionKey := (longNames.find? fun n => name.is n.1).map Prod.snd

def ofShort? (c : CodePoint) : Option OptionKey :=
  (shortNames.find? fun n => c = .char n.1).map Prod.snd

end OptionKey

inductive UsageError where
  | unknownOption (name : Text)
  | missingValue (key : OptionKey)
  | superfluousValue (key : OptionKey)
  | missingPath
  | extraArgument (argument : Text)
  | missingFile (path : Text)
  | directory (path : Text)
  | badNumber (text : Text)
deriving DecidableEq, Repr

/-- The options and other arguments as they are given, the last ones first. -/
structure Arguments where
  values : List (OptionKey × Text) := []
  flags : List OptionKey := []
  positional : List Text := []
deriving DecidableEq, Repr, Inhabited

namespace Arguments

def setValue (a : Arguments) (key : OptionKey) (value : Text) : Arguments :=
  { a with values := (key, value) :: a.values }

def setFlag (a : Arguments) (key : OptionKey) : Arguments := { a with flags := key :: a.flags }

def addPositional (a : Arguments) (argument : Text) : Arguments :=
  { a with positional := argument :: a.positional }

def value? (a : Arguments) (key : OptionKey) : Option Text := a.values.lookup key

def has (a : Arguments) (key : OptionKey) : Bool := a.flags.contains key

/-- Reads an argument that starts with two dashes. The option may still need the next argument for
its value. -/
def readLong (a : Arguments) (argument : Text) : Except UsageError (Arguments × Option OptionKey) :=
  let name := argument.takeWhile (· ≠ .char '=')
  let value := argument.dropWhile (· ≠ .char '=')
  match OptionKey.ofLong? name, value with
  | none, _ => .error (.unknownOption name)
  | some key, [] => .ok (if key.takesValue then (a, some key) else (a.setFlag key, none))
  | some key, _ :: value =>
    if key.takesValue then .ok (a.setValue key value, none) else .error (.superfluousValue key)

/-- Reads the letters after a single dash. -/
def readShort (a : Arguments) : Text → Except UsageError (Arguments × Option OptionKey)
  | [] => .ok (a, none)
  | c :: rest =>
    match OptionKey.ofShort? c with
    | none => .error (.unknownOption [.char '-', c])
    | some key =>
      if !key.takesValue then (a.setFlag key).readShort rest
      else if rest.isEmpty then .ok (a, some key)
      else .ok (a.setValue key rest, none)

/-- Reads one argument. A dash alone is no option. -/
def readArgument (a : Arguments) (argument : Text) :
    Except UsageError (Arguments × Option OptionKey) :=
  match argument with
  | .char '-' :: .char '-' :: _ => a.readLong argument
  | .char '-' :: c :: rest => a.readShort (c :: rest)
  | _ => .ok (a.addPositional argument, none)

def readAll (a : Arguments) : List Text → Except UsageError Arguments
  | [] => .ok a
  | argument :: rest =>
    if argument.is "--" then .ok (rest.foldl addPositional a)
    else match a.readArgument argument with
      | .error e => .error e
      | .ok (a, none) => a.readAll rest
      | .ok (a, some key) =>
        match rest with
        | [] => .error (.missingValue key)
        | value :: rest => (a.setValue key value).readAll rest

def read (arguments : List Text) : Except UsageError Arguments := readAll {} arguments

end Arguments

/-- What there is to read and to write. What else writing a log does, such as making directories or
setting a full file aside, is left to `appended`. -/
structure Files where
  /-- What a path leads to. -/
  source : Text → Source
  /-- What paths lead to after a text has been added to the file of a path, which is made if it is
  missing. -/
  appended : (path text : Text) → Text → Source
  /-- A path that leads to the standard output, where texts stand in the order of writing. -/
  isOutput : Text → Bool

instance : CoeFun Files fun _ => Text → Source := ⟨Files.source⟩

/-- Files of which each is reached by one path, up to parts that lead nowhere. -/
def Files.ofSource (source : Text → Source) (isOutput : Text → Bool) : Files where
  source
  appended path text other :=
    if Source.plainPath other = path then
      (source other).append (Utf8.encode (text.toChars?.getD []))
    else source other
  isOutput

/-- What is asked of the command. -/
structure Request where
  path : Text
  db : Option Text := none
  config : Option Text := none
  chunkSize : Option Int := none
  json : Bool := false
  verbose : Bool := false
deriving DecidableEq, Repr, Inhabited

inductive Invocation where
  | help
  | run (request : Request)
deriving DecidableEq, Repr

namespace Invocation

/-- A path must name a file. -/
def checkFile (files : Files) (path : Text) : Except UsageError Text :=
  match files path with
  | .file _ => .ok path
  | .unreadable .directory => .error (.directory path)
  | .unreadable _ => .error (.missingFile path)

/-- A number that is not negative, in decimal. -/
def checkNumber (t : Text) : Except UsageError Int :=
  match Numeral.parseDecimal? t with
  | some n => if n < 0 then .error (.badNumber t) else .ok n
  | none => .error (.badNumber t)

/-- The option for help counts before any error in a value. -/
def ofArguments (files : Files) (a : Arguments) : Except UsageError Invocation := do
  if a.has .help then return .help
  match a.positional.reverse with
  | [] => .error .missingPath
  | _ :: extra :: _ => .error (.extraArgument extra)
  | [path] =>
    return .run
      { path := ← checkFile files path, db := ← (a.value? .db).mapM (checkFile files)
        config := ← (a.value? .config).mapM (checkFile files)
        chunkSize := ← (a.value? .chunkSize).mapM checkNumber, json := a.has .json
        verbose := a.has .verbose }

def read (files : Files) (arguments : List Text) : Except UsageError Invocation := do
  ofArguments files (← Arguments.read arguments)

end Invocation
end ImportStubs.Command
