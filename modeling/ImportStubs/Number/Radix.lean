import ImportStubs.Text

/-!
# Numbers in positional notation

Numbers are written in a radix up to sixteen, with a least width, or in decimal with a comma between
groups of three. A negative number has its sign in front, and the sign counts towards the width.
-/

namespace ImportStubs

inductive LetterCase where
  | lower
  | upper
deriving DecidableEq, Repr

namespace Radix

def digit (letters : LetterCase) (n : Nat) : Char :=
  if n < 10 then Char.ofNat (0x30 + n)
  else match letters with
    | .lower => Char.ofNat (0x57 + n)
    | .upper => Char.ofNat (0x37 + n)

/-- The digits of a number in a radix of at least two; zero has the one digit zero. -/
def digits (radix : Nat) (letters : LetterCase) (n : Nat) : List Char :=
  if _h : 2 ≤ radix ∧ radix ≤ n then
    digits radix letters (n / radix) ++ [digit letters (n % radix)]
  else [digit letters n]
termination_by n
decreasing_by exact Nat.div_lt_self (by omega) (by omega)

end Radix

namespace Text

def ofNat (n : Nat) : Text := ofChars (Nat.toDigits 10 n)

def ofInt : Int → Text
  | .ofNat n => ofNat n
  | .negSucc n => .char '-' :: ofNat (n + 1)

/-- A number in a radix with at least `width` places, filled up with zeros between the sign and the
digits. -/
def padded (radix : Nat) (letters : LetterCase) (width : Nat) (n : Int) : Text :=
  let sign := if n < 0 then ['-'] else []
  let digits := Radix.digits radix letters n.natAbs
  ofChars (sign ++ List.replicate (width - sign.length - digits.length) '0' ++ digits)

def hex (n : Int) : Text := "0x" ++ padded 16 .lower 0 n

def hexWord (n : Int) : Text := "0x" ++ padded 16 .lower 8 n

/-- Eight places of upper-case hexadecimal after `0x`: how addresses and NIDs are shown. -/
def hexWordUpper (n : Int) : Text := "0x" ++ padded 16 .upper 8 n

/-- Digits in groups of three from the right, with commas between them. -/
def groupDigits (digits : List Char) : List Char :=
  if digits.length ≤ 3 then digits
  else groupDigits (digits.take (digits.length - 3)) ++ ',' :: digits.drop (digits.length - 3)
termination_by digits.length
decreasing_by simp; omega

/-- Decimal with commas: `1,234`. -/
def grouped (n : Int) : Text :=
  let digits := groupDigits (Nat.toDigits 10 n.natAbs)
  ofChars (if n < 0 then '-' :: digits else digits)

end Text
end ImportStubs
