import ImportStubs.Json.Writer
import ImportStubs.Log
import ImportStubs.Log.Reading

/-!
# Lines of a log file

An entry is written as plain text or as one line of JSON. Both begin with the time of the call. A
line that holds a lone surrogate cannot be written, and its entry is left out of the file. The file
is taken to hold nothing before the first entry, and never to be set aside for its size.
-/

namespace ImportStubs

namespace LogEntry

def endLine (t : Text) : Text :=
  if t.getLast? = some (.char '\n') then t else t ++ [CodePoint.char '\n']

/-- Time, level, component, operation and message; a trace stands on a line of its own. -/
def textLine (logger : Logger) (reading : Log.Reading) (e : LogEntry) : Text :=
  let line := reading.localTime ++ " | " ++ Text.padRight 8 e.level.name ++ " | " ++ logger.name ++
    " | " ++ e.operation ++ " | " ++ e.message.toText reading.seconds
  if e.emptyTrace then endLine line ++ "NoneType: None" else line

/-- The entry as a document; its fields stand in a table of their own if there are any. -/
def toFields (logger : Logger) (reading : Log.Reading) (e : LogEntry) : List (Text × Value) :=
  let extra : List (Text × Value) := if e.fields.isEmpty then [] else [("extra", .table e.fields)]
  ("timestamp", .text reading.timestamp) :: ("level", .text e.level.name) ::
    ("logger", .text logger.name) :: ("message", .text (e.message.toText reading.seconds)) ::
    ("tool_name", .text logger.tool) :: ("operation", .text e.operation) :: extra

def jsonLine (logger : Logger) (reading : Log.Reading) (e : LogEntry) : Text :=
  Json.writeLine (.table (e.toFields logger reading))

end LogEntry

/-- The content of the log file, where the clocks are read once for each entry. -/
def Logger.file (json : Bool) (clock : Nat → Log.Reading) (logger : Logger) : Text :=
  let lines := logger.entries.zipIdx.map fun e =>
    if json then e.1.jsonLine logger (clock e.2) else e.1.textLine logger (clock e.2)
  (lines.filter fun line => !Text.hasSurrogate line).flatMap fun line =>
    line ++ [CodePoint.char '\n']

end ImportStubs
