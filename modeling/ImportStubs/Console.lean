import ImportStubs.Console.Markup
import ImportStubs.Console.Panel
import ImportStubs.Console.Table
import ImportStubs.Console.Theme

/-!
# The console

The console prints markup: lines of text, status lines, tables and panels. Text folds at the width
of the console, and lines that are still too long are cut. A quiet console prints nothing, but it
refuses the same markup.
-/

namespace ImportStubs

structure Console where
  width : Nat := 200
  quiet : Bool := false
deriving DecidableEq, Repr

namespace Console

inductive Error where
  | markup (cause : Markup.Error)
  | style (definition : Text) (error : StyleError)
  /-- A style that is asked for has a number that cannot be read. -/
  | number (cause : UnreadableNumber)
deriving DecidableEq, Repr

def Error.unreadable? : Error → Option UnreadableNumber
  | markup (.number cause) | number cause => some cause
  | style _ e => e.unreadable?
  | markup _ => none

abbrev Printed := Except Error Text

def render (markup : Text) : Except Error StyledText := (Markup.render markup).mapError .markup

/-- Lines as they are printed. A console without a cell prints nothing. -/
def display (c : Console) (lines : List Line) : Text :=
  if c.quiet ∨ c.width = 0 then []
  else lines.flatMap fun line => (line.crop c.width).toText ++ [.char '\n']

def print (c : Console) (markup : Text) : Printed := do
  let t ← render markup
  if c.width = 0 then return []
  return c.display (← (Line.ofStyled (Lines.layOut .natural .fold c.width t)).mapError .number)

inductive Status where
  | success
  | warning
  | error
deriving DecidableEq, Repr

namespace Status

def all : List (String × Status) := [("success", success), ("warning", warning), ("error", error)]

def style : Status → String
  | success => "vita.ok"
  | warning => "vita.warn"
  | error => "vita.fail"

def mark : Status → String
  | success => "✔"
  | warning => "⚠"
  | error => "✘"

def label : Status → String
  | success => "OK"
  | warning => "WARNING"
  | error => "ERROR"

/-- A status line: its mark in brackets and its label, then the message, which is markup itself. -/
def line (s : Status) (message : Text) : Text :=
  "[" ++ Text.ofString s.style ++ "]\\[" ++ s.mark ++ "] " ++ s.label ++ ":[/" ++ s.style ++ "] " ++
    message

end Status

def status (c : Console) (s : Status) (message : Text) : Printed := c.print (s.line message)

def checkStyle (definition : Text) : Except Error Unit :=
  (Theme.check definition).mapError (.style definition)

/-- A cell; markup is not looked at if there is no room for it. -/
def renderCell (room : Nat) (markup : Text) : Except Error StyledText :=
  if room ≤ Table.padding then .ok default else render markup

/-- A column as it is measured; without any room not even its style is looked at. -/
def renderColumn (room : Nat) (column : Table.Column Text) (style : Text) :
    Except Error (Table.Column StyledText) := do
  if room ≠ 0 then checkStyle style
  return {
    header := ← renderCell room column.header
    cells := ← column.cells.mapM (renderCell room) }

/-- Prints a table whose parts are markup; the columns of the header may have styles. -/
def table (c : Console) (t : Table) (styles : List Text) : Printed := do
  if t.columnCount = 0 ∨ c.width = 0 then return c.display [{}]
  let room := c.width - Table.frame t.columnCount
  let styles :=
    (List.range t.columnCount).map fun i => if i < t.columns.length then styles.getD i [] else []
  let columns ← (t.toColumns.zip styles).mapM fun (column, style) => renderColumn room column style
  let widths := Table.columnWidths c.width columns
  let title ← t.title.mapM fun title => do
    (Table.titleLines widths (← render title)).mapError .number
  styles.forM checkStyle
  let grid ← (Table.gridLines widths t.rows.length columns).mapError .number
  return c.display (title.getD [] ++ grid)

/-- Prints a panel whose parts are markup; the text is not looked at if there is no room for it. -/
def panel (c : Console) (p : Panel) : Printed := do
  if c.width = 0 then return []
  let title ← render p.title
  let body ← if Panel.room c.width = 0 then pure default else render p.body
  return c.display (← (Panel.draw c.width title body).mapError .number)

end Console
end ImportStubs
