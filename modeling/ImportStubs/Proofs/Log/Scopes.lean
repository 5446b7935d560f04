import ImportStubs.Log.Call
import Mathlib.Tactic.Common

/-!
# Scopes of a log

A routine nests operations, timed scopes and log calls, and it may be left by an exception at any
point, which another part of it may handle. A logger keeps the current operation in a variable that
every scope restores. What is logged is the same as if every call was told which scopes are open
around it: there is no variable to be left behind.
-/

namespace ImportStubs

namespace Logger

/-- A logger with further entries. Nothing else about it differs. -/
def extended (logger : Logger) (entries : List LogEntry) : Logger :=
  { logger with entries := logger.entries ++ entries }

@[simp] theorem extended_nil (logger : Logger) : logger.extended [] = logger := by
  simp [extended]

@[simp] theorem extended_extended (logger : Logger) (before after : List LogEntry) :
    (logger.extended before).extended after = logger.extended (before ++ after) := by
  simp [extended]

@[simp] theorem operationName_extended (logger : Logger) (entries : List LogEntry) :
    (logger.extended entries).operationName = logger.operationName := rfl

/-- The entry, if the logger keeps entries of its level. -/
def keep (logger : Logger) (e : LogEntry) : List LogEntry :=
  if logger.isEnabled e.level then [e] else []

@[simp] theorem keep_extended (logger : Logger) (entries : List LogEntry) (e : LogEntry) :
    (logger.extended entries).keep e = logger.keep e := rfl

theorem record_run (logger : Logger) (level : LogLevel) (message : LogMessage)
    (fields : List (Text × Value)) (emptyTrace : Bool) :
    (record level message fields emptyTrace).run logger =
      ((), logger.extended (logger.keep
        { level, operation := logger.operationName, message, fields, emptyTrace })) := by
  change ((), if logger.isEnabled level then _ else logger) = _
  unfold keep
  dsimp only
  cases logger.isEnabled level with
  | true => rfl
  | false => simp

theorem run_bind {α β : Type} (action : StateM Logger α) (next : α → StateM Logger β)
    (logger : Logger) :
    (action >>= next).run logger = (next (action.run logger).1).run (action.run logger).2 := rfl

theorem withOperation_run {α : Type} (name : Text) (action : StateM Logger α) (logger : Logger) :
    (withOperation name action).run logger =
      ((action.run { logger with operation := some name }).1,
        { (action.run { logger with operation := some name }).2 with
          operation := logger.operation }) := rfl

theorem timed_run {α : Type} (label : Text) (action : StateM Logger α) (logger : Logger) :
    (timed label action).run logger =
      ((action.run logger).1,
        (action.run logger).2.extended ((action.run logger).2.keep
          { level := .debug, operation := (action.run logger).2.operationName
            message := .duration label })) := by
  unfold timed
  rw [run_bind, run_bind, run_bind]
  change ((action.run logger).1, ((record .debug (.duration label) [] false).run _).2) = _
  rw [record_run]
  rfl

end Logger

namespace LogCall

def message (c : LogCall) (logger : Logger) : Except Error (Option Text) :=
  if c.fields.any fun m => reservedNames.any (m.1.is ·) then .error .reservedField
  else if !logger.isEnabled c.level then .ok none
  else if (Value.member? "stacklevel" c.fields).any fun v => !isNumber v then .error .stackLevel
  else match Template.format c.template c.arguments with
    | .error e => if logger.hasConsole then .error (.template e) else .ok none
    | .ok message => .ok (some message)

def entry (c : LogCall) (operation message : Text) : LogEntry :=
  { level := c.level, operation, message := .text message, fields := c.entryFields
    emptyTrace := (Value.member? "exc_info" c.fields).any Value.isTruthy }

/-- The message does not depend on the operation, and the entry bears the one that is current. -/
theorem apply_eq (c : LogCall) (logger : Logger) :
    c.apply logger = (c.message logger).map fun message =>
      logger.extended (message.toList.map (c.entry logger.operationName)) := by
  unfold apply message
  split_ifs with hreserved hskipped hstack hconsole
  · rfl
  · simp [Except.map]
  · rfl
  all_goals
    have hkept : logger.isEnabled c.level = true := by simpa using hskipped
    cases Template.format c.template c.arguments with
    | error e => simp [Except.map]
    | ok message => simp [Except.map, Logger.record_run, Logger.keep, hkept, entry]

/-- Makes a call, and tells whether it went through. -/
def perform (c : LogCall) : StateM Logger Bool := fun logger =>
  match c.apply logger with
  | .ok logger => (true, logger)
  | .error _ => (false, logger)

end LogCall

/-- A part of a program, as far as a logger sees it. -/
inductive Routine where
  | skip
  /-- Raises an exception. -/
  | raise
  | call (c : LogCall)
  | sequence (first second : Routine)
  | operation (name : Text) (body : Routine)
  | timed (label : Text) (body : Routine)
  /-- Handles an exception that leaves the body. -/
  | attempt (body handler : Routine)

namespace Routine

def run : Routine → StateM Logger Bool
  | skip => pure true
  | raise => pure false
  | call c => c.perform
  | sequence first second => do if ← first.run then second.run else pure false
  | operation name body => Logger.withOperation name body.run
  | timed label body => Logger.timed label body.run
  | attempt body handler => do if ← body.run then pure true else handler.run

/-- A scope that is open. -/
inductive Frame where
  | operation (name : Text)
  | timed (label : Text)

/-- The name of the innermost operation among the open scopes, which begin with the innermost. -/
def operationOf : List Frame → Text
  | [] => "-"
  | .operation name :: _ => if name.isEmpty then "-" else name
  | .timed _ :: outer => operationOf outer

/-- The scopes that a logger was given with. -/
def framesOf (logger : Logger) : List Frame := (logger.operation.map Frame.operation).toList

theorem operationName_eq (logger : Logger) :
    logger.operationName = operationOf (framesOf logger) := by
  unfold Logger.operationName framesOf
  cases logger.operation with
  | none => rfl
  | some name => cases name <;> rfl

/-- Whether a routine comes to its end, and what it logs inside some open scopes. A call is logged
under the innermost operation. A timed scope is logged once when it is left in whatever way, and it
is not open any more then. -/
def trace (logger : Logger) (outer : List Frame) : Routine → Bool × List LogEntry
  | skip => (true, [])
  | raise => (false, [])
  | call c => match c.message logger with
    | .ok message => (true, message.toList.map (c.entry (operationOf outer)))
    | .error _ => (false, [])
  | sequence first second =>
    let (ended, entries) := first.trace logger outer
    if ended then
      let (ended, others) := second.trace logger outer
      (ended, entries ++ others)
    else (false, entries)
  | operation name body => body.trace logger (.operation name :: outer)
  | timed label body =>
    let (ended, entries) := body.trace logger (.timed label :: outer)
    (ended, entries ++ logger.keep
      { level := .debug, operation := operationOf outer, message := .duration label })
  | attempt body handler =>
    let (ended, entries) := body.trace logger outer
    if ended then (true, entries)
    else
      let (ended, others) := handler.trace logger outer
      (ended, entries ++ others)

/-- A trace reads neither the operation of the logger nor its entries. -/
theorem trace_congr (logger : Logger) (operation : Option Text) (entries : List LogEntry)
    (r : Routine) (outer : List Frame) :
    r.trace { logger with operation, entries } outer = r.trace logger outer := by
  induction r generalizing outer with
  | skip => rfl
  | raise => rfl
  | call c => rfl
  | sequence first second ihFirst ihSecond => simp only [trace, ihFirst, ihSecond]
  | operation name body ih => exact ih _
  | timed label body ih =>
    simp only [trace, ih]
    rfl
  | attempt body handler ihBody ihHandler => simp only [trace, ihBody, ihHandler]

@[simp] theorem trace_extended (logger : Logger) (entries : List LogEntry) (r : Routine)
    (outer : List Frame) : r.trace (logger.extended entries) outer = r.trace logger outer :=
  trace_congr logger logger.operation _ r outer

/-- A routine logs what its trace tells, and otherwise leaves the logger as it was. -/
theorem run_eq (r : Routine) (logger : Logger) {outer : List Frame}
    (h : logger.operationName = operationOf outer) :
    r.run.run logger = ((r.trace logger outer).1, logger.extended (r.trace logger outer).2) := by
  induction r generalizing logger outer with
  | skip =>
    rw [trace, Logger.extended_nil]
    rfl
  | raise =>
    rw [trace, Logger.extended_nil]
    rfl
  | call c =>
    change c.perform logger = _
    unfold LogCall.perform trace
    rw [c.apply_eq, h]
    cases c.message logger <;> simp [Except.map]
  | sequence first second ihFirst ihSecond =>
    rw [run, Logger.run_bind, ihFirst logger h, trace]
    dsimp only
    split_ifs with hended
    · rw [ihSecond (logger.extended _) h, trace_extended, Logger.extended_extended]
    · rfl
  | operation name body ih =>
    have hname : Logger.operationName { logger with operation := some name } =
        operationOf (.operation name :: outer) := by
      cases name <;> rfl
    rw [run, Logger.withOperation_run, ih _ hname, trace_congr]
    rfl
  | timed label body ih =>
    have hframe : logger.operationName = operationOf (.timed label :: outer) := h
    rw [run, Logger.timed_run, ih logger hframe, trace]
    simp [h]
  | attempt body handler ihBody ihHandler =>
    rw [run, Logger.run_bind, ihBody logger h, trace]
    dsimp only
    split_ifs with hended
    · rfl
    · rw [ihHandler (logger.extended _) h, trace_extended, Logger.extended_extended]

-- An exception leaves three scopes, and the time is logged under the outer operation.
example :
    (operation "outer" (.timed "work" (.operation "inner" .raise))).trace
      { tool := "t", threshold := 10 } [] =
        (false, [{ level := .debug, operation := "outer", message := .duration "work" }]) := rfl

end Routine
end ImportStubs
