import ImportStubs.Number.Rounding

/-!
# Binary floating-point numbers

A number of the 64-bit binary format is a sign and a value `significand * 2 ^ exponent`, an
infinity, or not a number. The significand is below `2 ^ 53` and the exponent at least -1074; the
exponent is as small as that allows, so each value has one form. A decimal rounds to the nearest
number, ties going to the even significand.
-/

namespace ImportStubs

inductive Binary64 where
  | finite (negative : Bool) (significand : Nat) (exponent : Int)
  | infinite (negative : Bool)
  | nan
deriving DecidableEq, Repr, Inhabited

namespace Binary64

def zero (negative : Bool) : Binary64 := finite negative 0 (-1074)

/-- All significands are below this power of two, and at least half of it unless the exponent is the
least one. -/
def significandLimit : Nat := 0x20000000000000

/-- The significand and the exponent in normal form, or infinity. -/
private def pack (negative : Bool) (significand : Nat) (exponent : Int) : Binary64 :=
  let (significand, exponent) :=
    if significand = significandLimit then (significandLimit / 2, exponent + 1)
    else (significand, exponent)
  if exponent > 971 then infinite negative else finite negative significand exponent

/-- The quotient `num / den` divided by a power of two, as a quotient of naturals. -/
def scale (num den : Nat) (exponent : Int) : Nat × Nat :=
  if 0 ≤ exponent then (num, den * Nat.pow 2 exponent.toNat)
  else (num * Nat.pow 2 (-exponent).toNat, den)

def ofQuotient (negative : Bool) (num den : Nat) : Binary64 :=
  if num = 0 then zero negative
  else
    let low : Int := max (-1074) ((num.log2 : Int) - (den.log2 : Int) - 53)
    let (n, d) := scale num den low
    let exponent := if n / d < significandLimit then low else low + 1
    let (n, d) := scale num den exponent
    pack negative (roundQuotient n d) exponent

/-- The number nearest to `digits * 10 ^ exponent`. Beyond four hundred places on either side the
result is infinite or zero without further work. -/
def ofDecimal (negative : Bool) (digits : Nat) (exponent : Int) : Binary64 :=
  let places := exponent + (Nat.toDigits 10 digits).length
  if digits = 0 ∨ places < -400 then zero negative
  else if 400 < places then infinite negative
  else if 0 ≤ exponent then ofQuotient negative (digits * Nat.pow 10 exponent.toNat) 1
  else ofQuotient negative digits (Nat.pow 10 (-exponent).toNat)

def ofInt (n : Int) : Binary64 := ofQuotient (n < 0) n.natAbs 1

def quotient (significand : Nat) (exponent : Int) : Nat × Nat :=
  if 0 ≤ exponent then (significand * Nat.pow 2 exponent.toNat, 1)
  else (significand, Nat.pow 2 (-exponent).toNat)

def toInt? : Binary64 → Option Int
  | finite negative significand exponent =>
    let (num, den) := quotient significand exponent
    if num % den = 0 then some (if negative then -(num / den : Nat) else (num / den : Nat))
    else none
  | _ => none

/-- The integer next to a finite number in the direction of zero. -/
def truncate? : Binary64 → Option Int
  | finite negative significand exponent =>
    let (num, den) := quotient significand exponent
    some (if negative then -(num / den : Nat) else (num / den : Nat))
  | _ => none

def isFinite : Binary64 → Bool
  | finite .. => true
  | _ => false

example : ofDecimal false 1 (-1) = finite false 7205759403792794 (-56) := by decide +kernel
example : ofDecimal false 5 (-324) = finite false 1 (-1074) := by decide +kernel

end Binary64
end ImportStubs
