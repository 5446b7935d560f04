import ImportStubs.Value

/-!
# Logging

A logger belongs to a component and keeps the entries at or above its threshold in the order of the
calls. Entries carry the name of the innermost operation scope that is open. A timed scope logs how
long it took when it is left, under the operation around it.
-/

namespace ImportStubs

inductive LogLevel where
  | debug
  | info
  | warning
  | error
deriving DecidableEq, Repr, Inhabited

namespace LogLevel

def number : LogLevel → Nat
  | debug => 10
  | info => 20
  | warning => 30
  | error => 40

def name : LogLevel → String
  | debug => "DEBUG"
  | info => "INFO"
  | warning => "WARNING"
  | error => "ERROR"

end LogLevel

inductive LogMessage where
  | text (t : Text)
  | duration (label : Text)
deriving DecidableEq, Repr, Inhabited

/-- The message, with the time that a scope took. -/
def LogMessage.toText (seconds : Text) : LogMessage → Text
  | text t => t
  | duration label => label ++ " took " ++ seconds ++ " sec"

structure LogEntry where
  level : LogLevel
  operation : Text
  message : LogMessage
  fields : List (Text × Value) := []
  /-- The call asked for the trace of an error although none was being handled. -/
  emptyTrace : Bool := false
deriving Inhabited

structure Logger where
  tool : Text
  threshold : Nat
  /-- The threshold that counts instead of zero. -/
  inherited : Nat := LogLevel.warning.number
  /-- Entries are shown on a console too. -/
  hasConsole : Bool := false
  operation : Option Text := none
  entries : List LogEntry := []
deriving Inhabited

namespace Logger

def name (logger : Logger) : Text := "vitalink." ++ logger.tool

def isEnabled (logger : Logger) (level : LogLevel) : Bool :=
  (if logger.threshold = 0 then logger.inherited else logger.threshold) ≤ level.number

/-- The operation that an entry carries; an empty name counts as none. -/
def operationName (logger : Logger) : Text :=
  match logger.operation with
  | some (c :: name) => c :: name
  | _ => "-"

/-- Logs an entry under the current operation. -/
def record (level : LogLevel) (message : LogMessage) (fields : List (Text × Value))
    (emptyTrace : Bool) : StateM Logger Unit :=
  modify fun logger =>
    if logger.isEnabled level then
      { logger with
        entries := logger.entries ++
          [{ level, operation := logger.operationName, message, fields, emptyTrace }] }
    else logger

def log (level : LogLevel) (message : Text) : StateM Logger Unit :=
  record level (.text message) [] false

def debug (message : Text) : StateM Logger Unit := log .debug message

def warning (message : Text) : StateM Logger Unit := log .warning message

/-- An open scope, with what leaving it needs. -/
inductive Scope where
  | operation (outer : Option Text)
  | timed (label : Text)
deriving DecidableEq, Repr

def enterOperation (name : Text) : StateM Logger Scope := fun logger =>
  (.operation logger.operation, { logger with operation := some name })

def enterTimed (label : Text) : StateM Logger Scope := pure (.timed label)

def Scope.leave : Scope → StateM Logger Unit
  | operation outer => modify fun logger => { logger with operation := outer }
  | timed label => record .debug (.duration label) [] false

/-- Runs an action inside an operation. -/
def withOperation {α : Type} (name : Text) (action : StateM Logger α) : StateM Logger α := do
  let scope ← enterOperation name
  let result ← action
  scope.leave
  return result

/-- Runs an action and logs how long it took. -/
def timed {α : Type} (label : Text) (action : StateM Logger α) : StateM Logger α := do
  let scope ← enterTimed label
  let result ← action
  scope.leave
  return result

end Logger
end ImportStubs
