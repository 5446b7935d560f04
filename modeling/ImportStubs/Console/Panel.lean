import ImportStubs.Console.Lines

/-!
# Panels

A panel frames text with rounded corners and a title in the upper edge. It is as wide as the
console.
-/

namespace ImportStubs.Console

structure Panel where
  title : Text
  body : Text
deriving DecidableEq, Repr

namespace Panel

def dashes (n : Nat) : Text := List.replicate n (.char '─')

/-- The cells between the corners for a title, or between the borders for text. -/
def room (width : Nat) : Nat := width - 4

/-- The title on one line, with a blank at each side. -/
def titleLine (title : StyledText) : StyledText :=
  let oneLine :=
    { title with text := title.text.map fun c => if c = .char '\n' then .char ' ' else c }
  ((Lines.expandTabs oneLine).padLeft 1).padRight 1

/-- The title between dashes. A panel that is too narrow shows no title. -/
def upperEdge (width : Nat) (title : StyledText) : Except UnreadableNumber Line := do
  if room width = 0 then return .ofText (.char '╭' :: dashes (width - 2) ++ [.char '╮'])
  let title := Lines.truncate .fold (room width) (titleLine title)
  let free := room width - Text.cells title.text
  let title := if free = 0 then Lines.trimEnd (room width) title else title
  let left := .char '╭' :: dashes (1 + free / 2)
  let right := dashes (free - free / 2 + 1) ++ [.char '╮']
  return .ofText left ++ ⟨← title.shown⟩ ++ .ofText right

def bodyLines (width : Nat) (body : StyledText) : Except UnreadableNumber (List Line) := do
  if room width = 0 then return []
  let lines ← Line.ofStyled (Lines.layOut .natural .fold (room width) body)
  return lines.map fun line => (line.fit (room width)).pad.fit (width - 2)

def lowerEdge (width : Nat) : Line := .ofText (.char '╰' :: dashes (width - 2) ++ [.char '╯'])

def bordered (line : Line) : Line := .ofText [.char '│'] ++ line ++ .ofText [.char '│']

def draw (width : Nat) (title body : StyledText) : Except UnreadableNumber (List Line) := do
  let lines ← bodyLines width body
  let edge ← upperEdge width title
  return edge :: lines.map bordered ++ [lowerEdge width]

end Panel
end ImportStubs.Console
