import ImportStubs.Console.Theme

/-!
# Styled text

A styled text has spans with styles, which may overlap. It is shown in runs: it is cut where a span
starts or ends, so that each run has one appearance. Cutting, joining and filling up a text does the
same to its spans; a span of which nothing is left is dropped.
-/

namespace ImportStubs.Console

structure Span where
  first : Nat
  last : Nat
  /-- A span that only carries a handler has no style. -/
  style : Option Text
deriving DecidableEq, Repr

namespace Span

def shift (n : Nat) (s : Span) : Span := { s with first := s.first + n, last := s.last + n }

/-- What is left of a span if the text ends at a position. -/
def upTo? (stop : Nat) (s : Span) : Option Span :=
  if s.first < stop then some { s with last := min s.last stop } else none

/-- What is left of a span between two positions, counted from the first one. -/
def between? (start stop : Nat) (s : Span) : Option Span :=
  let first := max s.first start - start
  let last := min s.last stop - start
  if first < last then some { s with first, last } else none

end Span

structure StyledText where
  text : Text
  spans : List Span := []
  /-- The text has a style as a whole. -/
  isStyled : Bool := false
deriving DecidableEq, Repr, Inhabited

namespace StyledText

def space (n : Nat) : Text := List.replicate n (.char ' ')

/-- Puts another text under the spans; they end with it if it is shorter. -/
def withText (t : Text) (s : StyledText) : StyledText where
  isStyled := s.isStyled
  text := t
  spans := if t.length < s.text.length then s.spans.filterMap (Span.upTo? t.length) else s.spans

def append (s t : StyledText) : StyledText where
  isStyled := s.isStyled
  text := s.text ++ t.text
  spans := s.spans ++ t.spans.map (Span.shift s.text.length)

instance : Append StyledText where
  append := append

def padLeft (n : Nat) (s : StyledText) : StyledText :=
  { s with text := space n ++ s.text, spans := s.spans.map (Span.shift n) }

def padRight (n : Nat) (s : StyledText) : StyledText := { s with text := s.text ++ space n }

/-- Adds blanks at the end that belong to the spans that reach it. -/
def extend (n : Nat) (s : StyledText) : StyledText where
  isStyled := s.isStyled
  text := s.text ++ space n
  spans := s.spans.map fun span =>
    if s.text.length ≤ span.last then { span with last := span.last + n } else span

/-- Makes the style of the whole a span. -/
def spanned (s : StyledText) : StyledText :=
  if s.isStyled then { s with spans := ⟨0, s.text.length, none⟩ :: s.spans } else s

def slice (start stop : Nat) (s : StyledText) : StyledText where
  isStyled := s.isStyled
  text := (s.text.take stop).drop start
  spans := s.spans.filterMap (Span.between? start stop)

def slicesFrom (start : Nat) (s : StyledText) : List Nat → List StyledText
  | [] => [s.slice start s.text.length]
  | stop :: rest => s.slice start stop :: slicesFrom stop s rest

/-- The parts between some positions; a text that is not cut keeps all its spans. -/
def divide (cuts : List Nat) (s : StyledText) : List StyledText :=
  if cuts.isEmpty then [s] else s.slicesFrom 0 cuts

/-- The positions after each code point of a kind. -/
def positionsAfter (p : CodePoint → Bool) (s : StyledText) : List Nat :=
  s.text.zipIdx.filterMap fun (c, i) => if p c then some (i + 1) else none

/-- The runs of a text that starts at a position, given where it is cut. -/
def runsFrom (cuts : List Nat) (position : Nat) : Text → List Text
  | [] => []
  | c :: t =>
    match runsFrom cuts (position + 1) t with
    | [] => [[c]]
    | run :: rest => if cuts.contains (position + 1) then [c] :: run :: rest else (c :: run) :: rest

theorem flatten_runsFrom (cuts : List Nat) (position : Nat) (t : Text) :
    (runsFrom cuts position t).flatten = t := by
  induction t generalizing position with
  | nil => rfl
  | cons c t ih =>
    have h := ih (position + 1)
    unfold runsFrom
    split
    · next hr => simpa [hr] using h
    · next hr =>
      rw [hr] at h
      split <;> simp [← h]

def runs (s : StyledText) : List Text :=
  runsFrom (s.spans.flatMap fun span => [span.first, span.last]) 0 s.text

/-- The runs make up the text. -/
theorem flatten_runs (s : StyledText) : s.runs.flatten = s.text := flatten_runsFrom _ _ _

/-- The runs as they are shown, for which every style is asked for. -/
def shown (s : StyledText) : Except UnreadableNumber (List Text) := do
  s.spans.forM fun span => span.style.forM Theme.look
  return s.runs

end StyledText
end ImportStubs.Console
