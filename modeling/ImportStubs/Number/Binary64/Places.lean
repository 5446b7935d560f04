import ImportStubs.Number.Binary64.Shortest

/-!
# Decimals with a given number of places

A magnitude `num / den` is rounded to a number of places after the point, or to a number of
significant digits; a half goes to the even neighbour. The general layout takes whichever of the two
suits the size and drops trailing zeros.
-/

namespace ImportStubs.Binary64

/-- Digits with a point before the last `places`; `keepPoint` writes the point also where nothing
follows it. -/
def pointed (keepPoint : Bool) (places : Nat) (digits : List Char) : List Char :=
  let digits := List.replicate (places + 1 - digits.length) '0' ++ digits
  let whole := digits.take (digits.length - places)
  if places = 0 then (if keepPoint then whole ++ ['.'] else whole)
  else whole ++ '.' :: digits.drop (digits.length - places)

def fixedPlaces (keepPoint : Bool) (places num den : Nat) : List Char :=
  pointed keepPoint places (Nat.toDigits 10 (roundQuotient (num * Nat.pow 10 places) den))

/-- The first `places + 1` significant digits and the exponent of the first of them. -/
def significant (places num den : Nat) : Nat × Int :=
  if num = 0 then (0, 0)
  else
    let e := Shortest.decimalExponent num den
    let shift := (places : Int) - e
    let k := roundQuotient (num * Nat.pow 10 shift.toNat) (den * Nat.pow 10 (-shift).toNat)
    if k = Nat.pow 10 (places + 1) then (Nat.pow 10 places, e + 1) else (k, e)

def scientific (keepPoint : Bool) (places num den : Nat) : List Char :=
  let (k, e) := significant places num den
  pointed keepPoint places (Nat.toDigits 10 k) ++ exponentText 'e' e

/-- Drops zeros at the end of a fraction, and the point if nothing is left after it. -/
def withoutTrailingZeros (cs : List Char) : List Char :=
  if cs.contains '.' then
    let cs := Shortest.dropTrailingZeros cs
    if cs.getLast? = some '.' then cs.dropLast else cs
  else cs

/-- At most `digits` significant digits; `keepZeros` keeps the trailing zeros and the point. -/
def general (keepZeros : Bool) (digits num den : Nat) : List Char :=
  let digits := max digits 1
  let (k, e) := significant (digits - 1) num den
  let tidy := if keepZeros then id else withoutTrailingZeros
  if -4 ≤ e ∧ e < digits then tidy (fixedPlaces keepZeros ((digits : Int) - 1 - e).toNat num den)
  else tidy (pointed keepZeros (digits - 1) (Nat.toDigits 10 k)) ++ exponentText 'e' e

end ImportStubs.Binary64
