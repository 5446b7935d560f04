import ImportStubs.Text
import ImportStubs.Number.Binary64

/-!
# Shortest decimals

A finite number is shown by the fewest significant digits that read back as the same number, and of
those by the nearest. The numbers that read back form an interval around the value, which reaches
halfway to the two neighbours and includes its ends when the significand is even. On each grid of
decimals with one more digit it suffices to look at the two neighbours of the value.

The layout is positional while the first digit stands at most sixteen places before and at most
three zeros after the point, and otherwise scientific with a signed exponent of two or more digits.
-/

namespace ImportStubs.Binary64

/-- A decimal `0.d₁d₂… * 10 ^ point`, without trailing zeros. -/
structure ShortDecimal where
  digits : List Char
  point : Int
deriving DecidableEq, Repr

namespace Shortest

/-- The exponent of the highest power of ten that is at most `num / den`. -/
def decimalExponent (num den : Nat) : Int :=
  if den ≤ num then ((Nat.toDigits 10 (num / den)).length : Int) - 1
  else -((Nat.toDigits 10 ((den + num - 1) / num - 1)).length : Int)

/-- The bounds of the interval that reads back and the value, in units of a quarter of the last
binary place. -/
structure Interval where
  low : Nat
  value : Nat
  high : Nat
  closed : Bool

def interval (significand : Nat) (exponent : Int) : Interval where
  low := 4 * significand - if 2 * significand = significandLimit ∧ exponent > -1074 then 1 else 2
  value := 4 * significand
  high := 4 * significand + 2
  closed := significand % 2 = 0

/-- Both sides of comparisons with the grid of step `10 ^ place`: multiples of the grid times the
first number stand against quarters of binary places times the second. -/
def weights (exponent place : Int) : Nat × Nat :=
  let e := exponent - 2
  (Nat.pow 10 place.toNat * Nat.pow 2 (-e).toNat, Nat.pow 10 (-place).toNat * Nat.pow 2 e.toNat)

/-- The neighbour of the value on the grid that reads back and lies nearest, if one does. -/
def onGrid? (i : Interval) (exponent place : Int) : Option Nat :=
  let (step, quarter) := weights exponent place
  let value := i.value * quarter
  let reads (k : Nat) : Bool :=
    let x := k * step
    if i.closed then i.low * quarter ≤ x && x ≤ i.high * quarter
    else i.low * quarter < x && x < i.high * quarter
  let below := value / step
  let above := below + 1
  match reads below, reads above with
  | true, true =>
    let fromBelow := value - below * step
    let fromAbove := above * step - value
    some (if fromBelow < fromAbove ∨ (fromBelow = fromAbove ∧ below % 2 = 0) then below else above)
  | true, false => some below
  | false, true => some above
  | false, false => none

def search (i : Interval) (exponent : Int) : Nat → Int → Nat × Int
  | 0, place => (i.value, place)
  | tries + 1, place =>
    match onGrid? i exponent place with
    | some k => (k, place)
    | none => search i exponent tries (place - 1)

def dropTrailingZeros (digits : List Char) : List Char :=
  (digits.reverse.dropWhile (· == '0')).reverse

end Shortest

open Shortest in
/-- The shortest decimal of a positive value; seventeen digits always suffice. -/
def shortest (significand : Nat) (exponent : Int) : ShortDecimal :=
  let (num, den) := quotient significand exponent
  let first := decimalExponent num den
  let (k, place) := search (interval significand exponent) exponent 18 first
  let digits := Nat.toDigits 10 k
  { digits := dropTrailingZeros digits, point := place + digits.length }

def exponentText (mark : Char) (e : Int) : List Char :=
  let digits := Nat.toDigits 10 e.natAbs
  mark :: (if e < 0 then '-' else '+') :: (List.replicate (2 - digits.length) '0' ++ digits)

def layout (d : ShortDecimal) : List Char :=
  if d.point ≤ -4 ∨ 16 < d.point then
    let tail := match d.digits.drop 1 with
      | [] => []
      | fraction => '.' :: fraction
    d.digits.take 1 ++ tail ++ exponentText 'e' (d.point - 1)
  else if d.point ≤ 0 then
    '0' :: '.' :: (List.replicate (-d.point).toNat '0' ++ d.digits)
  else
    let n := d.point.toNat
    let fraction := d.digits.drop n
    d.digits.take n ++ List.replicate (n - d.digits.length) '0' ++
      '.' :: (if fraction.isEmpty then ['0'] else fraction)

def toText : Binary64 → Text
  | nan => "nan"
  | infinite negative => if negative then "-inf" else "inf"
  | finite negative significand exponent =>
    let magnitude :=
      if significand = 0 then ['0', '.', '0'] else layout (shortest significand exponent)
    Text.ofChars (if negative then '-' :: magnitude else magnitude)

example : (ofDecimal false 1 (-1)).toText = "0.1" := by decide +kernel
example : (ofDecimal true 5 (-324)).toText = "-5e-324" := by decide +kernel
example : (ofDecimal false 1 16).toText = "1e+16" := by decide +kernel

end ImportStubs.Binary64
