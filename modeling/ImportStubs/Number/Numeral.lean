import ImportStubs.Text.Blank
import ImportStubs.Text.Digit

/-!
# Numerals

A numeral is a text that spells an integer: blanks around it, one sign, and digits with single
underscores between them. A spelling with a choice of radix marks hexadecimal, octal and binary
digits by `0x`, `0o` and `0b` in either case, with an underscore allowed after the mark; without a
mark the digits are decimal and may not start with a zero unless all of them are zeros. Decimal
digits of any script count. A decimal numeral of more than 4300 digits is refused, whatever its
value.
-/

namespace ImportStubs.Numeral

/-- The longest decimal notation that is read or shown. -/
def decimalLimit : Nat := 4300

/-- Blanks above ASCII as U+0020, digits of any script in ASCII, and `?` for what no numeral holds.
-/
def plain : CodePoint → Char
  | .char c =>
    if c.toNat < 0x80 then c
    else if Text.isBlank (.char c) then ' '
    else match Text.Digit.value? c.toNat with
      | some d => Char.ofNat (0x30 + d)
      | none => '?'
  | .surrogate _ => '?'

def isBlank (c : Char) : Bool := c == ' ' || (0x9 ≤ c.toNat && c.toNat ≤ 0xD)

def trim (cs : List Char) : List Char := ((cs.dropWhile isBlank).reverse.dropWhile isBlank).reverse

/-- The value of an ASCII letter or digit as a digit of a radix. -/
def digitValue? (radix : Nat) (c : Char) : Option Nat :=
  let n := c.toNat
  let value :=
    if 0x30 ≤ n ∧ n ≤ 0x39 then n - 0x30
    else if 0x41 ≤ n ∧ n ≤ 0x5A then n - 0x37
    else if 0x61 ≤ n ∧ n ≤ 0x7A then n - 0x57
    else radix
  if value < radix then some value else none

/-- The digits of a non-empty run with single underscores between digits. -/
def digitRun? (radix : Nat) : List Char → Option (List Nat)
  | [] => none
  | [c] => (digitValue? radix c).map ([·])
  | c :: '_' :: rest => do return (← digitValue? radix c) :: (← digitRun? radix rest)
  | c :: rest => do return (← digitValue? radix c) :: (← digitRun? radix rest)

def ofDigits (radix : Nat) (digits : List Nat) : Nat := digits.foldl (fun n d => n * radix + d) 0

def decimalDigits? (cs : List Char) : Option (List Nat) :=
  (digitRun? 10 cs).filter fun digits => digits.length ≤ decimalLimit

def radixOfMark? (c : Char) : Option Nat :=
  if c = 'x' ∨ c = 'X' then some 16
  else if c = 'o' ∨ c = 'O' then some 8
  else if c = 'b' ∨ c = 'B' then some 2
  else none

def dropUnderscore : List Char → List Char
  | '_' :: cs => cs
  | cs => cs

def plainMagnitude? (cs : List Char) : Option Nat :=
  (decimalDigits? cs).bind fun digits =>
    if digits.head? = some 0 ∧ ofDigits 10 digits ≠ 0 then none else some (ofDigits 10 digits)

def magnitude? : List Char → Option Nat
  | '0' :: mark :: cs =>
    match radixOfMark? mark with
    | some radix => (digitRun? radix (dropUnderscore cs)).map (ofDigits radix)
    | none => plainMagnitude? ('0' :: mark :: cs)
  | cs => plainMagnitude? cs

def signed? (magnitude : List Char → Option Nat) : List Char → Option Int
  | '+' :: cs => (magnitude cs).map Int.ofNat
  | '-' :: cs => (magnitude cs).map fun n => -(Int.ofNat n)
  | cs => (magnitude cs).map Int.ofNat

def parse? (t : Text) : Option Int := signed? magnitude? (trim (t.map plain))

/-- The integer that a text spells in decimal; leading zeros are allowed. -/
def parseDecimal? (t : Text) : Option Int :=
  signed? (fun cs => (decimalDigits? cs).map (ofDigits 10)) (trim (t.map plain))

/-- A number that can be shown: its decimal notation keeps to the limit. -/
def isShowable (n : Int) : Bool := n.natAbs < Nat.pow 10 decimalLimit

example : parse? "0x_fF " = some 255 := by decide
example : parse? "007" = none ∧ parse? "0_0" = some 0 := by decide

end ImportStubs.Numeral
