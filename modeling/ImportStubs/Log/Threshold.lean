import ImportStubs.Log
import ImportStubs.Settings

/-!
# Thresholds by name

A threshold is given by a name in any letter case; a name that is not known means the threshold of
information. Two names of the naming scheme stand for something else than a number and are refused.
-/

namespace ImportStubs.Log

inductive ThresholdError where
  /-- The name stands for a line format. -/
  | lineFormat
  /-- The name stands for a table of styles. -/
  | styles
deriving DecidableEq, Repr

def ThresholdError.message? : ThresholdError → Option Text
  | lineFormat => some "Unknown level: '%(levelname)s:%(name)s:%(message)s'"
  | styles => none

/-- Capitals for ASCII letters, and for the four other characters whose capitals are ASCII letters
that names use. -/
def capital (c : CodePoint) : Text :=
  if c.value = 0x131 then "I"
  else if c.value = 0x17F then "S"
  else if c.value = 0xFB05 ∨ c.value = 0xFB06 then "ST"
  else match c with
    | .char c => [.char c.toUpper]
    | c => [c]

def thresholds : List (String × Nat) :=
  [("NOTSET", 0), ("DEBUG", 10), ("INFO", 20), ("WARNING", 30), ("WARN", 30), ("ERROR", 40),
    ("CRITICAL", 50), ("FATAL", 50)]

def thresholdOf (name : Text) : Except ThresholdError Nat :=
  let name : Text := name.flatMap capital
  if name.is "BASIC_FORMAT" then .error .lineFormat
  else if name.is "_STYLES" then .error .styles
  else .ok (((thresholds.find? fun t => name.is t.1).map Prod.snd).getD LogLevel.info.number)

/-- The loggers that there are, each with its threshold, and the threshold above all of them. They
stay as they are while a logger is in use. -/
structure Registry where
  root : Nat := LogLevel.warning.number
  thresholds : List (Text × Nat) := []
deriving DecidableEq, Repr, Inhabited

/-- The name before the last dot, unless nothing stands there. -/
def above? (name : Text) : Option Text :=
  let rest := (name.reverse.dropWhile (· ≠ .char '.')).drop 1
  if rest.isEmpty then none else some rest.reverse

theorem length_of_above? {name above : Text} (h : above? name = some above) :
    above.length < name.length := by
  have hdropped := (List.dropWhile_sublist (l := name.reverse) (· ≠ .char '.')).length_le
  unfold above? at h
  dsimp only at h
  split at h
  · cases h
  · rename_i hne
    cases h
    have hpos := List.length_pos_iff.mpr (mt List.isEmpty_iff.mpr hne)
    rw [List.length_drop] at hpos
    rw [List.length_reverse] at hdropped
    rw [List.length_reverse, List.length_drop]
    omega

/-- The threshold that a logger without one has: that of the nearest logger above it which has one.
A name that no logger has is passed together with its last character. -/
def Registry.inherited (r : Registry) (name : Text) : Nat :=
  match _h : above? name with
  | none => r.root
  | some above =>
    match r.thresholds.lookup above with
    | none => r.inherited above.dropLast
    | some threshold => if threshold = 0 then r.inherited above else threshold
termination_by name.length
decreasing_by
  · have := length_of_above? _h
    simp only [List.length_dropLast]
    omega
  · exact length_of_above? _h

end ImportStubs.Log

namespace ImportStubs

def Logger.named (tool threshold : Text) (registry : Log.Registry := {}) :
    Except Log.ThresholdError Logger :=
  (Log.thresholdOf threshold).map fun threshold =>
    { tool, threshold, inherited := registry.inherited ("vitalink." ++ tool) }

/-- The threshold that settings ask for: the debug setting counts before the named level. -/
def GlobalSettings.threshold (s : GlobalSettings) : Text := if s.debug then "DEBUG" else s.logLevel

def Logger.ofSettings (tool : Text) (s : GlobalSettings) : Except Log.ThresholdError Logger :=
  (Logger.named tool s.threshold).map fun logger => { logger with hasConsole := true }

end ImportStubs
