import ImportStubs.Console.Lines
import ImportStubs.Number.Rounding

/-!
# Tables

A table is drawn with a heavy frame around its header and a light one around its rows, below a
centred title. A column is as wide as its longest cell and has a blank at each side. If the columns
do not fit, the widest ones shrink first, and their cells break into lines. A row with more cells
than there are columns adds columns without a header.
-/

namespace ImportStubs.Console

structure Table where
  title : Option Text := none
  columns : List Text := []
  rows : List (List Text) := []
deriving DecidableEq, Repr

namespace Table

def columnCount (t : Table) : Nat := (t.rows.map List.length).foldl max t.columns.length

/-- A header and the cells below it, as markup or as what that shows. -/
structure Column (α : Type) where
  header : α
  cells : List α
deriving DecidableEq, Repr

def column (t : Table) (i : Nat) : Column Text where
  header := t.columns.getD i []
  cells := t.rows.map fun row => row.getD i []

def toColumns (t : Table) : List (Column Text) := (List.range t.columnCount).map t.column

def padding : Nat := 2

/-- The cells that a column would like to take if there is room for `room`. -/
def Column.wish (room : Nat) (c : Column StyledText) : Nat :=
  let content := ((c.header :: c.cells).map fun cell => Lines.naturalWidth cell.text).foldl max 0
  max 1 (min room (content + padding))

/-- Takes `excess` away in parts from the entries that are chosen, at most `limit` from each. -/
def reduce (limit : Nat) : (excess chosen : Nat) → List (Nat × Bool) → List Nat
  | _, _, [] => []
  | excess, chosen, (n, isChosen) :: rest =>
    if isChosen then
      let part := min limit (roundQuotient excess chosen)
      (n - part) :: reduce limit (excess - part) (chosen - 1) rest
    else n :: reduce limit excess chosen rest

def totalWidth (widths : List Nat) : Nat := widths.foldl (· + ·) 0

/-- Shrinks the widest columns to the next narrower ones until all fit into `room`. -/
def shrink (room : Nat) (widths : List Nat) : List Nat :=
  let excess := totalWidth widths - room
  let widest := widths.foldl max 0
  let next := (widths.filter (· ≠ widest)).foldl max 0
  let limit := min excess (widest - next)
  let chosen := widths.map fun n => (n, n == widest)
  let reduced := reduce limit excess (chosen.filter (·.2)).length chosen
  if _h : 0 < excess ∧ totalWidth reduced < totalWidth widths then shrink room reduced else widths
termination_by totalWidth widths
decreasing_by exact _h.2

def frame (columns : Nat) : Nat := columns + 1

def columnWidths (room : Nat) (columns : List (Column StyledText)) : List Nat :=
  let room := room - frame columns.length
  shrink room (columns.map (Column.wish room))

/-- The lines of a cell in a column. There are none if the blanks at the sides leave no room. -/
def cellLines (width : Nat) (cell : StyledText) : Except UnreadableNumber (List Line) :=
  if width ≤ padding then .ok []
  else
    (Line.ofStyled (Lines.layOut .left .ellipsis (width - padding) cell)).map fun lines =>
      lines.map fun line => (line.fit (width - padding)).pad.fit width

def between (left middle right : Char) (parts : List Line) : Line :=
  let separated := (parts.map Line.runs).intersperse [[.char middle]]
  .ofText [.char left] ++ ⟨separated.flatten⟩ ++ .ofText [.char right]

def rule (left line middle right : Char) (widths : List Nat) : Line :=
  between left middle right (widths.map fun n => .ofText (List.replicate n (.char line)))

def fillLines (isHeader : Bool) (height width : Nat) (lines : List Line) : List Line :=
  let missing := List.replicate (height - lines.length) (.ofText (Lines.space width))
  if isHeader then missing ++ lines else lines ++ missing

def rowLines (isHeader : Bool) (widths : List Nat) (row : List StyledText) :
    Except UnreadableNumber (List Line) := do
  let cells ← (widths.zip row).mapM fun (width, cell) => cellLines width cell
  let height := max 1 ((cells.map List.length).foldl max 0)
  let filled := List.zipWith (fillLines isHeader height) widths cells
  let bar := if isHeader then '┃' else '│'
  return (List.range height).map fun i =>
    between bar bar bar (filled.map fun lines => lines.getD i {})

/-- The rows below the header, from the cells of the columns. -/
def rowsOf (count : Nat) (columns : List (Column StyledText)) : List (List StyledText) :=
  (List.range count).map fun i => columns.map fun c => c.cells.getD i default

/-- The title over a table with columns of some widths. It has a style of its own. -/
def titleLines (widths : List Nat) (title : StyledText) : Except UnreadableNumber (List Line) :=
  let width := totalWidth widths + frame widths.length
  Line.ofStyled (Lines.layOut .center .fold width { title with isStyled := true })

def gridLines (widths : List Nat) (rowCount : Nat) (columns : List (Column StyledText)) :
    Except UnreadableNumber (List Line) := do
  let header ← rowLines true widths (columns.map (·.header))
  let rows ← (rowsOf rowCount columns).mapM (rowLines false widths)
  return [rule '┏' '━' '┳' '┓' widths] ++ header ++ [rule '┡' '━' '╇' '┩' widths] ++ rows.flatten ++
    [rule '└' '─' '┴' '┘' widths]

end Table
end ImportStubs.Console
