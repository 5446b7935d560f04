import ImportStubs.Value

/-!
# Writing JSON

Two layouts are in use: a line with a blank after each comma and colon that keeps every character
beyond ASCII, and an indented document in ASCII alone, whose characters above U+FFFF are written as
two escaped halves. Both escape the quotation mark, the backslash and the C0 controls, so a line
never contains a line feed.
-/

namespace ImportStubs.Json

structure Layout where
  ascii : Bool
  /-- The width of one level, or none for a single line. -/
  indent : Option Nat
deriving DecidableEq, Repr

def Layout.line : Layout := ⟨false, none⟩

def Layout.document : Layout := ⟨true, some 2⟩

/-- The escaped form of a 16-bit unit. -/
def escapeUnit (n : Nat) : List Char := '\\' :: 'u' :: Text.Quoted.hexDigits 4 n

def escapeNumber (n : Nat) : List Char :=
  if n < 0x10000 then escapeUnit n
  else escapeUnit (0xD800 + (n - 0x10000) / 0x400) ++ escapeUnit (0xDC00 + (n - 0x10000) % 0x400)

/-- The letter that stands for a control after a backslash. -/
def shortEscape? (c : Char) : Option Char :=
  if c = '\n' then some 'n'
  else if c = '\r' then some 'r'
  else if c = '\t' then some 't'
  else if c = '\x08' then some 'b'
  else if c = '\x0c' then some 'f'
  else if c = '"' ∨ c = '\\' then some c
  else none

def writePoint (layout : Layout) : CodePoint → Text
  | .surrogate i => if layout.ascii then Text.ofChars (escapeUnit (0xD800 + i)) else [.surrogate i]
  | .char c =>
    match shortEscape? c with
    | some e => Text.ofChars ['\\', e]
    | none =>
      if c.toNat < 0x20 ∨ (layout.ascii ∧ 0x7E < c.toNat) then Text.ofChars (escapeNumber c.toNat)
      else [.char c]

def writeText (layout : Layout) (t : Text) : Text :=
  .char '"' :: t.flatMap (writePoint layout) ++ [.char '"']

def writeFloat : Binary64 → Text
  | .nan => "NaN"
  | .infinite negative => if negative then "-Infinity" else "Infinity"
  | x => x.toText

/-- The start of a new line at a depth, if the layout has lines. -/
def newline (layout : Layout) (depth : Nat) : Text :=
  match layout.indent with
  | none => []
  | some width => .char '\n' :: List.replicate (width * depth) (.char ' ')

def comma (layout : Layout) (depth : Nat) : Text :=
  match layout.indent with
  | none => ", "
  | some _ => "," ++ newline layout depth

mutual

/-- A value at a depth. A moment, which no JSON document holds, is written as the text of its
literal. -/
def write (layout : Layout) (depth : Nat) : Value → Text
  | .null => "null"
  | .bool b => if b then "true" else "false"
  | .int n => Text.ofInt n
  | .float x => writeFloat x
  | .text t => writeText layout t
  | .moment m => writeText layout m.literal
  | .list [] => "[]"
  | .list (v :: rest) =>
    "[" ++ newline layout (depth + 1) ++ write layout (depth + 1) v ++
      writeItems layout (depth + 1) rest ++ newline layout depth ++ "]"
  | .table [] => "\x7b\x7d"
  | .table ((name, v) :: rest) =>
    "\x7b" ++ newline layout (depth + 1) ++ writeText layout name ++ ": " ++
      write layout (depth + 1) v ++ writeMembers layout (depth + 1) rest ++
      newline layout depth ++ "\x7d"

def writeItems (layout : Layout) (depth : Nat) : List Value → Text
  | [] => []
  | v :: rest => comma layout depth ++ write layout depth v ++ writeItems layout depth rest

def writeMembers (layout : Layout) (depth : Nat) : List (Text × Value) → Text
  | [] => []
  | (name, v) :: rest =>
    comma layout depth ++ writeText layout name ++ ": " ++ write layout depth v ++
      writeMembers layout depth rest

end

def writeLine (v : Value) : Text := write .line 0 v

def writeDocument (v : Value) : Text := write .document 0 v

end ImportStubs.Json
