import ImportStubs.Command.Arguments
import ImportStubs.Command.Usage
import ImportStubs.Display
import ImportStubs.Json.Writer
import ImportStubs.Log.Call
import ImportStubs.Log.Line
import ImportStubs.Log.Threshold
import ImportStubs.Settings

/-!
# The command

The command loads a binary, resolves its stubs if there is a database, and writes what it found: as
panels and tables, or as one JSON document. It ends with zero if nothing failed and no import is
left unresolved, with two if its arguments are wrong, and else with one. A failure to read the
settings, the database or the binary is one error line, which the JSON mode leaves out. Only its own
log changes files while the command runs.
-/

namespace ImportStubs.Command

inductive Escape where
  | threshold (e : Log.ThresholdError)
  | logPath (cause : PathFault)
  | logFile (failure : Source.Failure)
  | call (e : LogCall.Error)
  | database (e : DatabaseError)
  | load (e : ReadError)
  | released (e : Session.Released)
  | console (e : Console.Error)
  /-- A lone surrogate cannot be written. -/
  | unencodable

inductive Ending where
  | exit (code : Nat)
  | raised (cause : Escape)

def Ending.exitCode : Ending → Nat
  | exit code => code
  | raised _ => 1

structure Outcome where
  output : Text := []
  /-- What has been written to the log. -/
  log : Text := []
  ending : Ending

namespace Outcome

def exitCode (o : Outcome) : Nat := o.ending.exitCode

/-- The command ends without a word on standard output. -/
def raised (cause : Escape) : Outcome := { ending := .raised cause }

/-- Writes texts in order. A lone surrogate cannot be written, and the command ends there. -/
def written (texts : List Text) (exitCode : Nat) : Outcome where
  output := (texts.takeWhile fun t => !Text.hasSurrogate t).flatten
  ending := if texts.any Text.hasSurrogate then .raised .unencodable else .exit exitCode

def ofPrinted (printed : Except Console.Error (List Text)) (exitCode : Nat) : Outcome :=
  match printed with
  | .ok texts => written texts exitCode
  | .error e => raised (.console e)

def refused (c : Console) (message : Text) : Outcome :=
  ofPrinted ((c.print (Display.errorLine message)).map ([·])) 1

/-- The end of a request, whether or not it comes early. -/
def ofResult : Except Outcome Outcome → Outcome
  | .ok o | .error o => o

/-- Adds the log. Nothing is logged after the first text is printed, so the log comes first on
standard output if it leads there. -/
def logged (isOutput : Bool) (log : Text) (o : Outcome) : Outcome :=
  { o with output := if isOutput then log ++ o.output else o.output, log }

end Outcome

def Request.override (r : Request) (s : Settings) : Settings where
  global := { s.global with debug := r.verbose || s.global.debug }
  link := { s.link with chunkSize := r.chunkSize.getD s.link.chunkSize }

/-- The settings for a request, which are the defaults if it names no file. -/
def readSettings (files : Files) (r : Request) : Except SettingsError Settings :=
  (r.config.elim (.ok {}) fun path => Settings.load path (files path)).map r.override

def settingsMessage (e : SettingsError) : Text :=
  "Invalid configuration: " ++ e.message?.getD "the file cannot be read"

def openLog (files : Files) (s : GlobalSettings) : Except Escape Unit := do
  if s.logFile.isEmpty then return
  let path := Source.plainPath s.logFile
  (Source.checkPath path).mapError .logPath
  (files path).checkWritable.mapError .logFile

def settingsCall (s : Settings) : LogCall where
  level := .debug
  template := "Configuration: %s"
  arguments := [.table s.toFields]

/-- The logger, which has the settings in its first entry. -/
def openLogger (files : Files) (s : Settings) : Except Escape Logger := do
  let logger ← (Logger.ofSettings "cli" s.global).mapError .threshold
  openLog files s.global
  ((settingsCall s).apply logger).mapError .call

variable (clock : Nat → Log.Reading)

/-- What is in the log, which there may be none of. -/
def logText (s : GlobalSettings) (logger : Logger) : Text :=
  if s.logFile.isEmpty then [] else logger.file s.logJson clock

/-- What paths lead to after the entries of a logger have been written to its log. -/
def sourcesAfter (files : Files) (s : GlobalSettings) (logger : Logger) : Text → Source :=
  if s.logFile.isEmpty then files
  else files.appended (Source.plainPath s.logFile) (logText clock s logger)

/-- A step that logs and may end the command. -/
abbrev Attempt := ExceptT Outcome (StateM Logger)

def databasePath? (r : Request) (s : LinkSettings) : Option Text :=
  r.db <|> if s.importDb.isEmpty then none else some s.importDb

def databaseMessage (e : DatabaseError) : Text :=
  "Cannot load import database: " ++ e.message?.getD "the fields of an entity are invalid"

def databaseEnd (c : Console) (e : DatabaseError) : Outcome :=
  if e.isDatabaseFault then .refused c (databaseMessage e) else .raised (.database e)

def loadDatabase (sources : Text → Source) (c : Console) (path : Text) : Attempt NidDatabase :=
  match NidDatabase.ofSource path (sources path) with
  | .ok db => return db
  | .error e => throw (databaseEnd c e)

def loadEnd (c : Console) : ReadError → Outcome
  | .load e => .refused c ("[" ++ Text.ofString e.tag ++ "] " ++ e.toText)
  | e => .raised (.load e)

def loadSession (sources : Text → Source) (c : Console) (path : Text) (s : LinkSettings) :
    Attempt Session := do
  match ← Session.load path s.chunkSize s.maxFileSize (sources path) with
  | .ok session => return session
  | .error failure => throw (loadEnd c failure.error)

def resolveSession (db : Option NidDatabase) (session : Session) :
    Attempt (Session × Option Report) := do
  match db with
  | none => return (session, none)
  | some db =>
    match ← session.resolve db.lookups with
    | .ok (session, report) => return (session, some report)
    | .error e => throw (.raised (.released e))

def document (s : Session) (report : Option Report) : Value :=
  let stubs := (s.stubs.functions ++ s.stubs.vars).map fun stub => Value.table stub.summary
  let content : List (Text × Value) :=
    [("path", .text s.path), ("fstubs_section", .int s.stubSections.functions),
      ("vstubs_section", .int s.stubSections.vars), ("symbols", .int s.symbols.length),
      ("stubs", .list stubs)]
  let resolution : List (Text × Value) :=
    report.toList.map fun r => ("resolution", .table r.toFields)
  .table (content ++ resolution)

def display (c : Console) (s : Session) (report : Option Report) :
    Except Console.Error (List Text) := do
  let shown ← Display.session c s
  match report with
  | none => return shown
  | some report => return shown ++ (← Display.report c report)

def isComplete (report : Option Report) : Bool := report.all Report.allResolved

/-- Serves a request; what ends it early is an error. -/
def attempt (sources : Text → Source) (r : Request) (s : LinkSettings) : Attempt Outcome := do
  let c : Console := { quiet := r.json }
  let db ← (databasePath? r s).mapM (loadDatabase sources c)
  let session ← loadSession sources c r.path s
  let (session, report) ← resolveSession db session
  let exitCode := if isComplete report then 0 else 1
  return if r.json then .written [Json.writeDocument (document session report) ++ "\n"] exitCode
    else .ofPrinted (display c session report) exitCode

/-- The logger is opened before anything but the settings is read. -/
def runRequest (files : Files) (r : Request) : Outcome :=
  match readSettings files r with
  | .error e => .refused { quiet := r.json } (settingsMessage e)
  | .ok s =>
    match openLogger files s with
    | .error cause => .raised cause
    | .ok logger =>
      let sources := sourcesAfter clock files s.global logger
      let (result, logger) := (attempt sources r s.link).run logger
      (Outcome.ofResult result).logged (files.isOutput (Source.plainPath s.global.logFile))
        (logText clock s.global logger)

def run (files : Files) (arguments : List Text) : Outcome :=
  match Invocation.read files arguments with
  | .error _ => { ending := .exit 2 }
  | .ok .help => .written [usage] 0
  | .ok (.run request) => runRequest clock files request

def namedPaths (arguments : List Text) : List Text :=
  match Arguments.read arguments with
  | .ok a => a.positional ++ a.values.map Prod.snd
  | .error _ => []

def settings? (files : Files) (arguments : List Text) : Option Settings :=
  match Invocation.read files arguments with
  | .ok (.run r) => (readSettings files r).toOption
  | _ => none

def logPath? (s : Settings) : Option Text :=
  if s.global.logFile.isEmpty then none else some (Source.plainPath s.global.logFile)

def settingsPaths (s : Settings) : List Text := s.link.importDb :: (logPath? s).toList

end ImportStubs.Command
