import ImportStubs.Moment

/-!
# Times in a log

The clocks are read when an entry is made. A line of JSON has universal time, a line of text local
time, and the entry of a timed scope tells how long that took.
-/

namespace ImportStubs.Log

structure Reading where
  universal : Date × ClockTime
  here : Date × ClockTime
  /-- The minutes by which the local clock is ahead. -/
  offset : Int := 0
  /-- The milliseconds since the scope was entered that is being left. -/
  elapsed : Nat := 0
deriving DecidableEq, Repr, Inhabited

namespace Reading

def places (width n : Nat) : Text := Text.padded 10 .lower width n

def instant (moment : Date × ClockTime) : Text :=
  places 4 moment.1.year ++ "-" ++ places 2 moment.1.month ++ "-" ++ places 2 moment.1.day ++ "T" ++
    places 2 moment.2.hour ++ ":" ++ places 2 moment.2.minute ++ ":" ++ places 2 moment.2.second

/-- Universal time, with a fraction of the second unless that is zero. -/
def timestamp (r : Reading) : Text :=
  let fraction : Text :=
    if r.universal.2.microsecond = 0 then [] else "." ++ places 6 r.universal.2.microsecond
  instant r.universal ++ fraction ++ "+00:00"

def localTime (r : Reading) : Text :=
  let sign : Text := if r.offset < 0 then "-" else "+"
  let minutes := r.offset.natAbs
  instant r.here ++ sign ++ places 2 (minutes / 60) ++ places 2 (minutes % 60)

/-- The time that a scope took, in seconds with three places. -/
def seconds (r : Reading) : Text :=
  Text.ofNat (r.elapsed / 1000) ++ "." ++ places 3 (r.elapsed % 1000)

end Reading
end ImportStubs.Log
