import ImportStubs.Number.Radix

/-!
# Dates and times

A document can hold a date, a time of day, or both with or without an offset from universal time.
`literal` is the constructor notation used inside messages: fields in order, without trailing zero
seconds, and the offset as a difference whose days carry the sign.
-/

namespace ImportStubs

structure Date where
  year : Nat
  month : Nat
  day : Nat
deriving DecidableEq, Repr, Inhabited

structure ClockTime where
  hour : Nat
  minute : Nat
  second : Nat
  microsecond : Nat
deriving DecidableEq, Repr, Inhabited

inductive Moment where
  | date (d : Date)
  | time (t : ClockTime)
  /-- The offset counts minutes ahead of universal time. -/
  | dateTime (d : Date) (t : ClockTime) (offset : Option Int)
deriving DecidableEq, Repr, Inhabited

namespace Date

def isLeap (year : Nat) : Bool := year % 4 == 0 && (year % 100 != 0 || year % 400 == 0)

def daysIn (year month : Nat) : Nat :=
  if month = 2 then (if isLeap year then 29 else 28)
  else if month = 4 ∨ month = 6 ∨ month = 9 ∨ month = 11 then 30
  else 31

/-- Years count from one, and the day exists in its month. -/
def isValid (d : Date) : Bool :=
  1 ≤ d.year && d.year ≤ 9999 && 1 ≤ d.month && d.month ≤ 12 && 1 ≤ d.day &&
    d.day ≤ daysIn d.year d.month

end Date

namespace Moment

private def fields (ns : List Nat) : Text := Text.join ", " (ns.map Text.ofNat)

/-- Hour and minute, then seconds and microseconds as far as they are needed. -/
private def clockFields (t : ClockTime) : List Nat :=
  [t.hour, t.minute] ++
    (if t.microsecond ≠ 0 then [t.second, t.microsecond]
      else if t.second ≠ 0 then [t.second]
      else [])

private def zone (minutes : Int) : Text :=
  if minutes = 0 then "datetime.timezone.utc"
  else
    let seconds := minutes * 60
    let days := if seconds < 0 then "days=-1, " else ""
    "datetime.timezone(datetime.timedelta(" ++ days ++ "seconds=" ++
      Text.ofInt (seconds % 86400) ++ "))"

def literal : Moment → Text
  | date d => "datetime.date(" ++ fields [d.year, d.month, d.day] ++ ")"
  | time t => "datetime.time(" ++ fields (clockFields t) ++ ")"
  | dateTime d t offset =>
    let zone : Text := match offset with
      | none => ""
      | some minutes => ", tzinfo=" ++ zone minutes
    "datetime.datetime(" ++ fields ([d.year, d.month, d.day] ++ clockFields t) ++ zone ++ ")"

end Moment
end ImportStubs
