import ImportStubs.Moment
import ImportStubs.Number.Binary64
import ImportStubs.Number.Numeral

/-!
# Numbers, dates and times

These readers take as much from the front of a document as belongs to a number or a moment. Digits
may have single underscores between them. A calendar date must exist; seconds may have a fraction,
of which six digits count.
-/

namespace ImportStubs.Toml

/-- The digits at the front, with single underscores between digits. -/
def digitRun (isDigit : Char → Bool) : List Char → List Char × List Char
  | [] => ([], [])
  | [c] => if isDigit c then ([c], []) else ([], [c])
  | c :: next :: rest =>
    if isDigit c then
      if next = '_' ∧ (rest.head?.any isDigit) then
        let (digits, rest) := digitRun isDigit rest
        (c :: digits, rest)
      else
        let (digits, rest) := digitRun isDigit (next :: rest)
        (c :: digits, rest)
    else ([], c :: next :: rest)

def isDecimal (c : Char) : Bool := c.isDigit

def decimalValue (digits : List Char) : Nat :=
  Numeral.ofDigits 10 (digits.map fun c => c.toNat - 0x30)

def radixInteger? : List Char → Option (Int × List Char)
  | '0' :: mark :: rest =>
    let radix := if mark = 'x' then 16 else if mark = 'o' then 8 else if mark = 'b' then 2 else 0
    match digitRun (fun c => (Numeral.digitValue? radix c).isSome) rest with
    | ([], _) => none
    | (digits, rest) =>
      some (Numeral.ofDigits radix (digits.map fun c => (Numeral.digitValue? radix c).getD 0), rest)
  | _ => none

/-- A decimal number: an optional sign, an integer part without superfluous zeros, and perhaps a
fraction and an exponent. -/
structure Decimal where
  negative : Bool
  whole : List Char
  fraction : Option (List Char)
  exponent : Option Int
deriving DecidableEq, Repr

def sign : List Char → Bool × List Char
  | '-' :: cs => (true, cs)
  | '+' :: cs => (false, cs)
  | cs => (false, cs)

def wholePart? : List Char → Option (List Char × List Char)
  | '0' :: rest => some (['0'], rest)
  | cs => match digitRun isDecimal cs with
    | ([], _) => none
    | run => some run

def fractionPart : List Char → Option (List Char) × List Char
  | '.' :: rest => match digitRun isDecimal rest with
    | ([], _) => (none, '.' :: rest)
    | (digits, rest) => (some digits, rest)
  | cs => (none, cs)

def exponentPart : List Char → Option Int × List Char
  | [] => (none, [])
  | mark :: rest =>
    if mark = 'e' ∨ mark = 'E' then
      let (negative, digits) := sign rest
      match digitRun isDecimal digits with
      | ([], _) => (none, mark :: rest)
      | (run, after) =>
        (some (if negative then -(decimalValue run : Int) else decimalValue run), after)
    else (none, mark :: rest)

def decimal? (cs : List Char) : Option (Decimal × List Char) := do
  let (negative, cs) := sign cs
  let (whole, cs) ← wholePart? cs
  let (fraction, cs) := fractionPart cs
  let (exponent, cs) := exponentPart cs
  return ({ negative, whole, fraction, exponent }, cs)

/-- The floating-point number of a decimal with a fraction or an exponent. -/
def Decimal.toFloat (d : Decimal) : Binary64 :=
  let fraction := d.fraction.getD []
  .ofDecimal d.negative (decimalValue (d.whole ++ fraction)) (d.exponent.getD 0 - fraction.length)

/-- The integer of a decimal without. -/
def Decimal.toInt (d : Decimal) : Int :=
  if d.negative then -(decimalValue d.whole : Int) else decimalValue d.whole

/-- Infinity and the number that is none, with an optional sign. -/
def special? (cs : List Char) : Option (Binary64 × List Char) :=
  match sign cs with
  | (negative, 'i' :: 'n' :: 'f' :: rest) => some (.infinite negative, rest)
  | (_, 'n' :: 'a' :: 'n' :: rest) => some (.nan, rest)
  | _ => none

def fixed? (width low high : Nat) (cs : List Char) : Option (Nat × List Char) :=
  let digits := cs.take width
  let n := decimalValue digits
  if digits.length = width ∧ digits.all isDecimal ∧ low ≤ n ∧ n ≤ high then some (n, cs.drop width)
  else none

def expect? (c : Char) : List Char → Option (List Char)
  | d :: rest => if c = d then some rest else none
  | [] => none

/-- A fraction of a second in microseconds. -/
def microseconds (cs : List Char) : Nat × List Char :=
  match cs with
  | '.' :: rest =>
    let digits := rest.takeWhile isDecimal
    if digits.isEmpty then (0, cs)
    else
      let counted := digits.take 6
      (decimalValue counted * Nat.pow 10 (6 - counted.length), rest.dropWhile isDecimal)
  | _ => (0, cs)

def clock? (cs : List Char) : Option (ClockTime × List Char) := do
  let (hour, cs) ← fixed? 2 0 23 cs
  let cs ← expect? ':' cs
  let (minute, cs) ← fixed? 2 0 59 cs
  let cs ← expect? ':' cs
  let (second, cs) ← fixed? 2 0 59 cs
  let (microsecond, cs) := microseconds cs
  return ({ hour, minute, second, microsecond }, cs)

/-- An offset from universal time in minutes; `none` if none is given. -/
def offset (cs : List Char) : Option Int × List Char :=
  let signed : Option (Int × List Char) := do
    let factor : Int ← match cs.head? with
      | some '+' => some 1
      | some '-' => some (-1)
      | _ => none
    let (hours, rest) ← fixed? 2 0 23 (cs.drop 1)
    let rest ← expect? ':' rest
    let (minutes, rest) ← fixed? 2 0 59 rest
    return (factor * (60 * hours + minutes), rest)
  match cs, signed with
  | 'Z' :: rest, _ => (some 0, rest)
  | 'z' :: rest, _ => (some 0, rest)
  | _, some (minutes, rest) => (some minutes, rest)
  | _, none => (none, cs)

/-- A date in digits; whether it exists in the calendar is another matter. -/
def date? (cs : List Char) : Option (Date × List Char) := do
  let (year, cs) ← fixed? 4 0 9999 cs
  let cs ← expect? '-' cs
  let (month, cs) ← fixed? 2 1 12 cs
  let cs ← expect? '-' cs
  let (day, cs) ← fixed? 2 1 31 cs
  return ({ year, month, day }, cs)

/-- A date, with the time of day if one follows. -/
def moment? (cs : List Char) : Option (Date × Moment × List Char) := do
  let (date, rest) ← date? cs
  let clock : Option (ClockTime × List Char) := match rest with
    | c :: after => if c = 'T' ∨ c = 't' ∨ c = ' ' then clock? after else none
    | [] => none
  match clock with
  | none => return (date, .date date, rest)
  | some (time, rest) =>
    let (offset, rest) := offset rest
    return (date, .dateTime date time offset, rest)

end ImportStubs.Toml
