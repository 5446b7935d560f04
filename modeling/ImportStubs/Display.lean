import ImportStubs.Console
import ImportStubs.Session

/-!
# Display

A session is shown as a panel with its path and counts, and a table for each stub section that the
binary has. A report is one status line if every import is resolved, and else a table of the others
with a warning. Names that come from a binary or a database are escaped, so they never act as
markup.
-/

namespace ImportStubs.Display

/-- What is printed at once. -/
inductive Part where
  | panel (p : Console.Panel)
  | table (t : Console.Table) (styles : List Text)
  | line (markup : Text)

def Part.print (c : Console) : Part → Console.Printed
  | panel p => c.panel p
  | table t styles => c.table t styles
  | line markup => c.print markup

/-- The name of an attached entity, or a dash. -/
def entityMarkup : Option Entity → Text
  | none => "[dim]-[/dim]"
  | some e => Console.Markup.escape e.label

def stubRow (s : Stub) : List Text :=
  [Text.hexWordUpper s.address, Console.Markup.escape s.displayName,
    Text.hexWordUpper s.libraryNid, Text.hexWordUpper s.moduleNid, Text.hexWordUpper s.targetNid,
    entityMarkup s.library, entityMarkup s.module, entityMarkup s.target]

def targetHeader : StubKind → Text
  | .functionStub => "Function"
  | .variableStub => "Variable"

def stubTable (kind : StubKind) (stubs : List Stub) : Console.Table where
  title := some (kind.sectionName ++ " (" ++ Text.ofNat stubs.length ++ ")")
  columns := ["Address", "Symbol", "Library NID", "Module NID", "Target NID", "Library", "Module",
    targetHeader kind]
  rows := stubs.map stubRow

def stubStyles : List Text := ["bright_cyan", "bold", "dim", "dim", "dim"]

/-- The position of a section, or a dash if there is none. -/
def sectionText (index : Int) : Text := if index = 0 then "-" else Text.ofInt index

def summaryLine (label : String) (kind : StubKind) (s : Session) : Text :=
  Text.ofString label ++ Text.ofNat (s.stubs.get kind).length ++ " (section " ++
    sectionText (s.stubSections.get kind) ++ ")"

def summary (s : Session) : Console.Panel where
  title := "[bold bright_cyan]Vita Import Stubs[/bold bright_cyan]"
  body := Text.join "\n"
    ["[bold]File:[/bold]            " ++ Console.Markup.escape s.path,
      summaryLine "[bold]Function stubs:[/bold]  " .functionStub s,
      summaryLine "[bold]Variable stubs:[/bold]  " .variableStub s,
      "[bold]Symbols:[/bold]         " ++ Text.ofNat s.symbols.length]

/-- A panel, and a table for each kind of stubs that has a section. -/
def sessionParts (s : Session) : List Part :=
  .panel (summary s) ::
    (StubKind.all.filter fun kind => s.stubSections.get kind ≠ 0).map fun kind =>
      .table (stubTable kind (s.stubs.get kind)) stubStyles

/-- Prints a session that is not released. -/
def session (c : Console) (s : Session) : Except Console.Error (List Text) :=
  (sessionParts s).mapM (Part.print c)

def missRow (m : Miss) : List Text :=
  [m.kind.name, Text.hexWordUpper m.address, Console.Markup.escape m.symbol, m.stageName,
    Text.hexWordUpper m.nid]

def missTable (misses : List Miss) : Console.Table where
  title := some "Unresolved imports"
  columns := ["Kind", "Address", "Symbol", "Missing", "NID"]
  rows := misses.map missRow

def missStyles : List Text := ["", "bright_cyan", "bold", "yellow", "dim"]

def resolvedLine (r : Report) : Text :=
  Console.Status.success.line ("All " ++ Text.ofNat r.total ++ " imports resolved")

def unresolvedLine (r : Report) : Text :=
  Console.Status.warning.line
    (Text.ofNat r.unresolved.length ++ " of " ++ Text.ofNat r.total ++ " imports unresolved")

def reportParts (r : Report) : List Part :=
  if r.allResolved then [.line (resolvedLine r)]
  else [.table (missTable r.unresolved) missStyles, .line (unresolvedLine r)]

def report (c : Console) (r : Report) : Except Console.Error (List Text) :=
  (reportParts r).mapM (Part.print c)

/-- The line that tells an error. -/
def errorLine (message : Text) : Text := Console.Status.error.line (Console.Markup.escape message)

end ImportStubs.Display
