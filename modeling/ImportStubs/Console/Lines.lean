import ImportStubs.Console.StyledText
import ImportStubs.Text.Blank
import ImportStubs.Text.Grapheme

/-!
# Lines

Text is laid out in lines of a given number of cells. Lines break between words; blanks stay with
the word before them, and those beyond the end of a line are dropped. A word that is too long for a
line is folded over several lines, or the line ends in an ellipsis. What is laid out is a text as a
whole; what is printed are its runs, and since a joiner or a selector does not act beyond its run,
the widths of the runs are looked at again.
-/

namespace ImportStubs.Console

inductive Overflow where
  | fold
  | ellipsis
deriving DecidableEq, Repr

inductive Alignment where
  /-- Lines are as long as their text. -/
  | natural
  /-- Lines are filled up on the right. -/
  | left
  /-- Lines are filled up on both sides. -/
  | center
deriving DecidableEq, Repr

namespace Lines

def space (n : Nat) : Text := StyledText.space n

def fit (width : Nat) (t : Text) : Text :=
  if width = 0 then []
  else if Text.cells t ≤ width then t ++ space (width - Text.cells t)
  else Text.Grapheme.front width t.graphemes

def truncate (overflow : Overflow) (width : Nat) (s : StyledText) : StyledText :=
  if Text.cells s.text ≤ width then s
  else match overflow with
    | .fold => s.withText (fit width s.text)
    | .ellipsis => s.withText (fit (width - 1) s.text ++ [.char '…'])

/-- Drops blanks at the end that lie beyond `width` code points. -/
def trimEnd (width : Nat) (s : StyledText) : StyledText :=
  let blanks := (s.text.reverse.takeWhile Text.isSpacing).length
  s.withText (s.text.take (s.text.length - min blanks (s.text.length - width)))

def align (alignment : Alignment) (overflow : Overflow) (width : Nat) (s : StyledText) :
    StyledText :=
  match alignment with
  | .natural => truncate overflow width s
  | .left => (truncate overflow width s).padRight (width - Text.cells s.text)
  | .center =>
    let line := truncate overflow width (s.withText (Text.dropEndWhile Text.isSpacing s.text))
    let line := line.padLeft ((width - Text.cells line.text) / 2)
    line.padRight (width - Text.cells line.text)

def tabSize : Nat := 8

def isTab (c : CodePoint) : Bool := c == .char '\t'

/-- Joins parts that start at a column, each of which but the last one ends in a tab. A tab shows as
blanks up to the next stop. -/
def joinTabbed (column : Nat) : List StyledText → StyledText
  | [] => { text := [] }
  | part :: rest =>
    if part.text.getLast?.any isTab then
      let part := { part with text := part.text.dropLast ++ space 1 }
      let column := column + Text.cells part.text
      let missing := (tabSize - column % tabSize) % tabSize
      (part.extend missing).spanned ++ joinTabbed (column + missing) rest
    else part.spanned ++ joinTabbed (column + Text.cells part.text) rest

def expandTabs (s : StyledText) : StyledText :=
  match s.positionsAfter isTab with
  | [] => s
  | cuts => joinTabbed 0 (s.divide cuts)

/-- The words of a text with the blanks that follow them; leading blanks belong to the first word.
-/
def words (t : Text) : List Text :=
  match t.splitBy fun a b => !Text.isSpacing a || Text.isSpacing b with
  | [] => []
  | [word] => if word.all Text.isSpacing then [] else [word]
  | word :: next :: rest =>
    if word.all Text.isSpacing then (word ++ next) :: rest else word :: next :: rest

/-- A paragraph of which some code points are placed on lines. -/
structure Filling where
  /-- Where lines are broken, the last position first. -/
  breaks : List Nat := []
  placed : Nat := 0
  /-- The cells of the current line. -/
  used : Nat := 0
deriving DecidableEq, Repr

namespace Filling

def place (t : Text) (s : Filling) : Filling :=
  { s with placed := s.placed + t.length, used := s.used + Text.cells t }

/-- Starts a new line, unless nothing has been placed yet. -/
def breakLine (s : Filling) : Filling :=
  { s with breaks := if s.placed = 0 then s.breaks else s.placed :: s.breaks, used := 0 }

def startLine (s : Filling) (t : Text) : Filling := s.breakLine.place t

def placeWord (overflow : Overflow) (width : Nat) (s : Filling) (word : Text) : Filling :=
  let needed := Text.cells (Text.dropEndWhile Text.isSpacing word)
  if s.used + needed ≤ width then s.place word
  else if overflow = .fold ∧ width < needed then
    (Text.Grapheme.chop width [] 0 word.graphemes).foldl startLine s
  else s.startLine word

end Filling

def breaks (overflow : Overflow) (width : Nat) (t : Text) : List Nat :=
  ((words t).foldl (Filling.placeWord overflow width) {}).breaks.reverse

/-- The paragraphs of a text; the line feeds between them are left out. -/
def paragraphs (s : StyledText) : List StyledText :=
  let dropFeed (part : StyledText) : StyledText :=
    if part.text.getLast? = some (.char '\n') then part.slice 0 (part.text.length - 1) else part
  match s.positionsAfter (· == .char '\n') with
  | [] => [s]
  | cuts => (s.divide cuts).map dropFeed

def layOut (alignment : Alignment) (overflow : Overflow) (width : Nat) (s : StyledText) :
    List StyledText :=
  (paragraphs s).flatMap fun p =>
    let p := expandTabs p
    (p.divide (breaks overflow width p.text)).map fun line =>
      align alignment overflow width (trimEnd width line)

/-- What ends a line when a text is measured. -/
def isLineEnd (c : CodePoint) : Bool :=
  [0xA, 0x1C, 0x1D, 0x1E, 0x85, 0x2028, 0x2029].contains c.value

def naturalWidth (t : Text) : Nat := ((t.splitOnP isLineEnd).map Text.cells).foldl max 0

end Lines

structure Line where
  runs : List Text := []
deriving DecidableEq, Repr, Inhabited

namespace Line

instance : Append Line where
  append line other := ⟨line.runs ++ other.runs⟩

def ofText (t : Text) : Line := ⟨[t]⟩

def toText (line : Line) : Text := line.runs.flatten

def cells (line : Line) : Nat := (line.runs.map Text.cells).foldl (· + ·) 0

/-- The front of a line of more than `width` cells. -/
def cut (width : Nat) : List Text → List Text
  | [] => []
  | run :: rest =>
    if Text.cells run < width then run :: cut (width - Text.cells run) rest
    else [Lines.fit width run]

def crop (width : Nat) (line : Line) : Line :=
  if width < line.cells then ⟨cut width line.runs⟩ else line

def fit (width : Nat) (line : Line) : Line :=
  if line.cells < width then line ++ ofText (Lines.space (width - line.cells)) else line.crop width

def pad (line : Line) : Line := ofText (Lines.space 1) ++ line ++ ofText (Lines.space 1)

/-- Lines as they are shown, for which every style is asked for. -/
def ofStyled (lines : List StyledText) : Except UnreadableNumber (List Line) :=
  lines.mapM fun line => line.shown.map Line.mk

end Line
end ImportStubs.Console
