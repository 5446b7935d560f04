/-!
# Text

A text is a list of code points. Most are characters; an escape such as `\ud800` in a JSON string
can also leave half of a surrogate pair behind, and such a half has to survive until it is quoted or
compared, so it is a code point of its own kind. Text that comes from UTF-8 bytes never holds one.
-/

namespace ImportStubs

/-- A character, or a surrogate standing alone: `surrogate i` is `U+D800 + i`. -/
inductive CodePoint where
  | char (c : Char)
  | surrogate (index : Fin 0x800)
deriving DecidableEq, Repr, Inhabited

namespace CodePoint

instance : Coe Char CodePoint := ⟨char⟩

def value : CodePoint → Nat
  | char c => c.toNat
  | surrogate i => 0xD800 + i

/-- The code point with a number, if there is one. -/
def ofNat? (n : Nat) : Option CodePoint :=
  if h : n.isValidChar then some (char (Char.ofNatAux n h))
  else if h : 0xD800 ≤ n ∧ n < 0xE000 then some (surrogate ⟨n - 0xD800, by omega⟩)
  else none

def isSurrogate : CodePoint → Bool
  | char _ => false
  | surrogate _ => true

/-- The code point is in one of some ranges. -/
def isWithin (ranges : List (Nat × Nat)) (c : CodePoint) : Bool :=
  ranges.any fun r => r.1 ≤ c.value && c.value ≤ r.2

end CodePoint

abbrev Text := List CodePoint

namespace Text

def ofChars (cs : List Char) : Text := cs.map .char

def ofString (s : String) : Text := ofChars s.toList

instance : Coe String Text := ⟨ofString⟩

/-- The characters of a text without lone surrogates. -/
def toChars? : Text → Option (List Char)
  | [] => some []
  | .char c :: rest => (toChars? rest).map (c :: ·)
  | .surrogate _ :: _ => none

def hasSurrogate (t : Text) : Bool := t.any CodePoint.isSurrogate

/-- Equality with a literal. -/
def is (t : Text) (s : String) : Bool := t == ofString s

def concat (parts : List Text) : Text := parts.flatten

/-- The parts in order with a separator between any two of them. -/
def join (separator : Text) : List Text → Text
  | [] => []
  | [part] => part
  | part :: rest => part ++ separator ++ join separator rest

/-- The lower-case letter of an ASCII capital; every other code point is itself. -/
def asciiLower (t : Text) : Text :=
  t.map fun
    | .char c => .char c.toLower
    | c => c

/-- The text, filled up on the right with blanks. -/
def padRight (width : Nat) (t : Text) : Text :=
  t ++ List.replicate (width - t.length) (CodePoint.char ' ')

end Text
end ImportStubs
