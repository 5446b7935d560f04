import ImportStubs.Log
import ImportStubs.Template

/-!
# Log calls

A call gives a template with its arguments and further fields. Three field names are options of the
call instead: a trace of the error being handled, a trace of the stack, and the distance of the
caller. A call below the threshold is not looked at further. A call whose template does not fit its
arguments leaves no entry; with a console it is refused.
-/

namespace ImportStubs

structure LogCall where
  level : LogLevel
  template : Text
  arguments : List Value := []
  fields : List (Text × Value) := []
deriving Inhabited

namespace LogCall

/-- A call that is refused. -/
inductive Error where
  /-- A field has the name of something that every call has. -/
  | reservedField
  /-- The distance of the caller is no number. -/
  | stackLevel
  | template (e : Template.Error)
deriving DecidableEq, Repr

def optionNames : List String := ["exc_info", "stack_info", "stacklevel"]

def reservedNames : List String := ["msg", "self"]

def isOption (name : Text) : Bool := optionNames.any (name.is ·)

/-- The fields that the entry carries. -/
def entryFields (c : LogCall) : List (Text × Value) := c.fields.filter fun m => !isOption m.1

def isNumber : Value → Bool
  | .bool _ | .int _ | .float _ => true
  | _ => false

/-- The logger after a call. -/
def apply (c : LogCall) (logger : Logger) : Except Error Logger :=
  if c.fields.any fun m => reservedNames.any (m.1.is ·) then .error .reservedField
  else if !logger.isEnabled c.level then .ok logger
  else if (Value.member? "stacklevel" c.fields).any fun v => !isNumber v then .error .stackLevel
  else match Template.format c.template c.arguments with
    | .error e => if logger.hasConsole then .error (.template e) else .ok logger
    | .ok message =>
      let emptyTrace := (Value.member? "exc_info" c.fields).any Value.isTruthy
      .ok ((Logger.record c.level (.text message) c.entryFields emptyTrace).run logger).2

end LogCall
end ImportStubs
