import ImportStubs.Console.Emoji
import ImportStubs.Console.Markup.Parameters
import ImportStubs.Console.StyledText

/-!
# Markup

Markup is text with style tags in brackets. Brackets hold a tag only if what follows the opening one
starts with a small letter, `#`, `/` or `@`, and no other opening bracket comes before the closing
one. A tag that starts with a slash ends a style; backslashes in front of a tag stand for half as
many backslashes, and an odd one makes the tag literal. Escaped text contains no tag, whatever it
was before.
-/

namespace ImportStubs.Console.Markup

def backslash : CodePoint := .char '\\'

def openBracket : CodePoint := .char '['

def closeBracket : CodePoint := .char ']'

/-- A code point, or a bracketed tag with the number of backslashes in front of it. -/
inductive Token where
  | point (c : CodePoint)
  | bracketed (backslashes : Nat) (content : Text)
deriving DecidableEq, Repr

def startsTag : CodePoint → Bool
  | .char c => ('a' ≤ c && c ≤ 'z') || c == '#' || c == '/' || c == '@'
  | .surrogate _ => false

/-- The content up to a closing bracket, and what follows that, if no opening bracket comes first.
-/
def readContent? : Text → Option (Text × Text)
  | [] => none
  | c :: rest =>
    if c = closeBracket then some ([], rest)
    else if c = openBracket then none
    else (readContent? rest).map fun (content, after) => (c :: content, after)

def readTag? : Text → Option (Text × Text)
  | bracket :: first :: rest =>
    if bracket = openBracket ∧ startsTag first then
      (readContent? rest).map fun (content, after) => (first :: content, after)
    else none
  | _ => none

/-- The tag at the front of a text after any number of backslashes. -/
def readBracketed? (t : Text) : Option (Token × Text) :=
  let slashes := t.takeWhile (· = backslash)
  (readTag? (t.dropWhile (· = backslash))).map fun (content, after) =>
    (.bracketed slashes.length content, after)

theorem length_of_readContent? {t content after : Text}
    (h : readContent? t = some (content, after)) :
    after.length < t.length := by
  induction t generalizing content with
  | nil => simp [readContent?] at h
  | cons c rest ih =>
    unfold readContent? at h
    split at h
    · obtain ⟨-, rfl⟩ : [] = content ∧ rest = after := by simpa using h
      simp
    · split at h
      · contradiction
      · obtain ⟨⟨content', after'⟩, hr, he⟩ := Option.map_eq_some_iff.1 h
        obtain ⟨-, rfl⟩ : c :: content' = content ∧ after' = after := by simpa using he
        have := ih hr
        simp only [List.length_cons]
        omega

theorem length_of_readTag? {t content after : Text} (h : readTag? t = some (content, after)) :
    after.length < t.length := by
  unfold readTag? at h
  split at h
  · split at h
    · obtain ⟨⟨content', after'⟩, hr, he⟩ := Option.map_eq_some_iff.1 h
      obtain ⟨-, rfl⟩ : _ = content ∧ after' = after := by simpa using he
      have := length_of_readContent? hr
      simp only [List.length_cons]
      omega
    · contradiction
  · contradiction

theorem length_of_readBracketed? {t after : Text} {token : Token}
    (h : readBracketed? t = some (token, after)) :
    after.length < t.length := by
  obtain ⟨⟨content, after'⟩, hr, he⟩ := Option.map_eq_some_iff.1 h
  obtain ⟨-, rfl⟩ : _ = token ∧ after' = after := by simpa using he
  have := length_of_readTag? hr
  have := (List.dropWhile_suffix (l := t) (· = backslash)).length_le
  omega

def tokens (t : Text) : List Token :=
  match t with
  | [] => []
  | c :: rest =>
    match _h : readBracketed? (c :: rest) with
    | some (token, after) => token :: tokens after
    | none => .point c :: tokens rest
termination_by t.length
decreasing_by
  · exact length_of_readBracketed? _h
  · simp

def bracket (content : Text) : Text := openBracket :: content ++ [closeBracket]

def escapeToken : Token → Text
  | .point c => [c]
  | .bracketed n content => List.replicate (2 * n + 1) backslash ++ bracket content

/-- A second backslash at the end if there is exactly one. -/
def closeEnd (t : Text) : Text :=
  match t.reverse with
  | [c] => if c = backslash then t ++ [backslash] else t
  | c :: d :: _ => if c = backslash ∧ d ≠ backslash then t ++ [backslash] else t
  | [] => t

/-- Markup that shows a text without any style. -/
def escape (t : Text) : Text := closeEnd ((tokens t).flatMap escapeToken)

structure Tag where
  name : Text
  /-- What follows an equals sign. -/
  parameters : Option Text
deriving DecidableEq, Repr

inductive Piece where
  | plain (t : Text)
  | tag (tag : Tag)
deriving DecidableEq, Repr

def Tag.ofContent (content : Text) : Tag where
  name := content.takeWhile (· ≠ .char '=')
  parameters := match content.dropWhile (· ≠ .char '=') with
    | [] => none
    | _ :: parameters => some parameters

/-- Text in front of the other pieces, which is no piece of its own if it is empty. -/
def flush (t : Text) (pieces : List Piece) : List Piece :=
  if t.isEmpty then pieces else .plain t :: pieces

def bracketedPieces (backslashes : Nat) (content : Text) : List Piece :=
  flush (List.replicate (backslashes / 2) backslash)
    [if backslashes % 2 = 1 then .plain (bracket content) else .tag (.ofContent content)]

/-- The text up to the first tag, and the pieces from there on. -/
def group : List Token → Text × List Piece
  | [] => ([], [])
  | .point c :: rest =>
    let (t, pieces) := group rest
    (c :: t, pieces)
  | .bracketed n content :: rest =>
    let (t, pieces) := group rest
    ([], bracketedPieces n content ++ flush t pieces)

/-- The pieces of markup; the code points between two tags make one piece. -/
def pieces (t : Text) : List Piece :=
  let (before, pieces) := group (tokens t)
  flush before pieces

/-- Controls that are never shown: bell, backspace, vertical tab, form feed and carriage return. -/
def isHidden (c : CodePoint) : Bool := [0x7, 0x8, 0xB, 0xC, 0xD].contains c.value

/-- A bracket that is no tag may be written with a backslash. -/
def unescape : Text → Text
  | [] => []
  | [c] => [c]
  | c :: d :: rest =>
    if c = backslash ∧ d = openBracket then openBracket :: unescape rest
    else c :: unescape (d :: rest)

def showPlain (t : Text) : Text := (Emoji.replace (unescape t)).filter fun c => !isHidden c

/-- Why markup shows nothing. -/
inductive Error where
  /-- A closing tag without an open one. -/
  | unmatched (tag : Tag)
  /-- A handler is closed whose parameters are not well formed. -/
  | parameters (tag : Tag)
  | number (cause : UnreadableNumber)
deriving DecidableEq, Repr

def Tag.isHandler (tag : Tag) : Bool := tag.name.head? = some (.char '@')

/-- The style that an open tag asks for. -/
def Tag.style (tag : Tag) : Text :=
  tag.name ++ tag.parameters.elim [] fun parameters => .char ' ' :: parameters

structure OpenTag where
  tag : Tag
  position : Nat
deriving DecidableEq, Repr

structure Rendering where
  text : Text := []
  /-- The tags that are open, innermost first. -/
  opened : List OpenTag := []
  /-- The spans of the tags that are closed, the last one first. -/
  spans : List Span := []
deriving DecidableEq, Repr

namespace Rendering

def openTag (tag : Tag) (r : Rendering) : Rendering :=
  { r with opened := ⟨tag, r.text.length⟩ :: r.opened }

/-- Ends the span of a tag here. A handler has no style. -/
def endSpan (o : OpenTag) (r : Rendering) : Except Error Rendering :=
  if !o.tag.isHandler then
    .ok { r with spans := ⟨o.position, r.text.length, some o.tag.style⟩ :: r.spans }
  else if o.tag.parameters.all Parameters.areWellFormed then
    .ok { r with spans := ⟨o.position, r.text.length, none⟩ :: r.spans }
  else .error (.parameters o.tag)

/-- Closes the innermost open tag of a name. -/
def closeNamed (closing : Tag) (name : Text) (r : Rendering) : Except Error Rendering :=
  match r.opened.find? fun o => o.tag.name = name with
  | some o => endSpan o { r with opened := r.opened.eraseP fun o => o.tag.name = name }
  | none => .error (.unmatched closing)

def closeLast (closing : Tag) (r : Rendering) : Except Error Rendering :=
  match r.opened with
  | o :: rest => endSpan o { r with opened := rest }
  | [] => .error (.unmatched closing)

def addTag (tag : Tag) (r : Rendering) : Except Error Rendering := do
  match tag.name with
  | .char '/' :: name =>
    match Text.trimWhile Text.isSpacing name with
    | [] => r.closeLast tag
    | name => r.closeNamed tag (← (Style.normalize name).mapError .number)
  | name => return r.openTag { tag with name := ← (Style.normalize name).mapError .number }

def addPiece (r : Rendering) : Piece → Except Error Rendering
  | .plain t => .ok { r with text := r.text ++ showPlain t }
  | .tag tag => r.addTag tag

/-- Tags that stay open end with the text, and handlers among them are ordinary styles. The spans
come in the order of their starts, and those with the same start in the order of their tags. -/
def finish (r : Rendering) : StyledText :=
  let last := r.opened.map fun o => (⟨o.position, r.text.length, some o.tag.style⟩ : Span)
  { text := r.text, spans := (last.reverse ++ r.spans).mergeSort fun a b => a.first ≤ b.first }

end Rendering

def render (markup : Text) : Except Error StyledText :=
  ((pieces markup).foldlM Rendering.addPiece {}).map Rendering.finish

end ImportStubs.Console.Markup
