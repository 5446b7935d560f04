import ImportStubs.Text.Cells

/-!
# Graphemes

A grapheme is a character that takes cells, together with the marks, selectors and joined characters
after it. A text is cut between its graphemes and nowhere else. What stands in front of the first
character that takes cells is a grapheme of its own.
-/

namespace ImportStubs.Text

structure Grapheme where
  text : Text
  cells : Nat
deriving DecidableEq, Repr

namespace Grapheme

def single (c : CodePoint) : Grapheme := ⟨[c], cellWidth c⟩

def append (g : Grapheme) (c : CodePoint) (width : Nat) : Grapheme :=
  ⟨g.text ++ [c], g.cells + width⟩

/-- A grapheme that may go on, and those after it. The last character is the one that a selector
acts on; after a joiner the next code point belongs to the grapheme, whatever it is. -/
def grow (g : Grapheme) (last : Option CodePoint) (isJoined : Bool) : Text → List Grapheme
  | [] => [g]
  | c :: t =>
    if isJoined then (g.append c 0).grow last false t
    else if c = joiner then (g.append c 0).grow last true t
    else if c = pictureSelector then
      if last.any isWidened then (g.append c 1).grow none false t
      else (g.append c 0).grow last false t
    else if cellWidth c = 0 then (g.append c 0).grow last false t
    else g :: (single c).grow (some c) false t

def ofText : Text → List Grapheme
  | [] => []
  | c :: t => (single c).grow (if cellWidth c = 0 then none else some c) false t

theorem flatMap_grow (g : Grapheme) (last : Option CodePoint) (isJoined : Bool) (t : Text) :
    (g.grow last isJoined t).flatMap text = g.text ++ t := by
  induction t generalizing g last isJoined with
  | nil => simp [grow]
  | cons c t ih =>
    unfold grow
    repeat' split
    all_goals simp [ih, append, single]

/-- No code point is lost. -/
theorem flatMap_ofText (t : Text) : (ofText t).flatMap text = t := by
  cases t with
  | nil => rfl
  | cons c t => simp [ofText, flatMap_grow, single]

/-- The graphemes at the front that fit into a width. A blank stands for one that fits only in part.
-/
def front (width : Nat) : List Grapheme → Text
  | [] => []
  | g :: rest =>
    if width = 0 then []
    else if g.cells ≤ width then g.text ++ front (width - g.cells) rest
    else [.char ' ']

/-- Parts of at most `width` cells, the first of which continues a part; a single grapheme may be
wider. -/
def chop (width : Nat) (part : Text) (taken : Nat) : List Grapheme → List Text
  | [] => if taken = 0 then [] else [part]
  | g :: rest =>
    if width < taken + g.cells then part :: chop width g.text g.cells rest
    else chop width (part ++ g.text) (taken + g.cells) rest

end Grapheme

def graphemes (t : Text) : List Grapheme := Grapheme.ofText t

end ImportStubs.Text
