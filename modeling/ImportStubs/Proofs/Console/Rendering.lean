import ImportStubs.Proofs.Console.Escaping
import ImportStubs.Proofs.Console.Styles

/-!
# Tags decide what markup shows

Between two tags nothing but text is added, so whether markup can be shown, and in which styles,
depends on its tags only.
-/

namespace ImportStubs.Console.Markup

namespace Rendering

/-- The rendering without its text and without positions in it. -/
def bare (r : Rendering) : Rendering where
  opened := r.opened.map fun o => ⟨o.tag, 0⟩
  spans := r.spans.map fun span => ⟨0, 0, span.style⟩

theorem bare_endSpan (o : OpenTag) (r : Rendering) :
    (endSpan o r).map bare = endSpan ⟨o.tag, 0⟩ r.bare := by
  rw [endSpan, endSpan]
  split_ifs <;> rfl

theorem bare_closeLast (closing : Tag) (r : Rendering) :
    (r.closeLast closing).map bare = r.bare.closeLast closing := by
  rcases r with ⟨text, opened, spans⟩
  cases opened with
  | nil => rfl
  | cons o rest => exact bare_endSpan o _

theorem bare_closeNamed (closing : Tag) (name : Text) (r : Rendering) :
    (r.closeNamed closing name).map bare = r.bare.closeNamed closing name := by
  have hfind : r.bare.opened.find? (fun o => o.tag.name = name) =
      (r.opened.find? fun o => o.tag.name = name).map fun o => ⟨o.tag, 0⟩ := List.find?_map
  rw [closeNamed, closeNamed, hfind]
  cases r.opened.find? fun o => o.tag.name = name with
  | none => rfl
  | some o =>
    refine (bare_endSpan o _).trans (congrArg (endSpan _) ?_)
    rw [bare, bare, List.eraseP_map]
    rfl

/-- Adding a tag does not depend on the text before it. -/
theorem bare_addTag (tag : Tag) (r : Rendering) :
    (r.addTag tag).map bare = r.bare.addTag tag := by
  unfold addTag
  split
  · next name _ =>
    split
    · exact bare_closeLast tag r
    · next trimmed _ =>
      cases Style.normalize (Text.trimWhile Text.isSpacing name) with
      | error e => rfl
      | ok normal => exact bare_closeNamed tag normal r
  · cases Style.normalize tag.name with
    | error e => rfl
    | ok normal => rfl

theorem bare_pieces (pieces : List Piece) (r : Rendering) :
    (pieces.foldlM addPiece r).map bare =
      (pieces.filterMap Piece.tag?).foldlM (fun r tag => r.addTag tag) r.bare := by
  induction pieces generalizing r with
  | nil => rfl
  | cons piece rest ih =>
    rw [List.foldlM_cons]
    cases piece with
    | plain t =>
      rw [List.filterMap_cons, Piece.tag?]
      exact ih { r with text := r.text ++ showPlain t }
    | tag tag =>
      rw [List.filterMap_cons, Piece.tag?, List.foldlM_cons, ← bare_addTag, addPiece]
      cases r.addTag tag with
      | error e => rfl
      | ok next => exact ih next

end Rendering

end Markup

/-- The style can be asked for. -/
def Span.isReadable (span : Span) : Bool := span.style.all Theme.isKnown

def StyledText.isReadable (s : StyledText) : Bool := s.spans.all Span.isReadable

namespace Markup

/-- The styles of all tags of a rendering can be asked for, the open ones included. -/
def Rendering.isReadable (r : Rendering) : Bool :=
  (r.opened.all fun o => Span.isReadable ⟨0, 0, some o.tag.style⟩) && r.spans.all Span.isReadable

theorem Rendering.isReadable_finish (r : Rendering) : r.finish.isReadable = r.isReadable := by
  rw [StyledText.isReadable, finish, (List.mergeSort_perm _ _).all_eq, List.all_append,
    List.all_reverse, List.all_map]
  rfl

theorem Rendering.isReadable_bare (r : Rendering) : r.bare.isReadable = r.isReadable := by
  rw [isReadable, isReadable, bare, List.all_map, List.all_map]
  rfl

/-- Every closing tag has an opening one, and the styles between them can be asked for. -/
def areShown (ts : List Tag) : Bool :=
  match ts.foldlM (fun r tag => Rendering.addTag tag r) {} with
  | .ok r => r.isReadable
  | .error _ => false

/-- A style under its own name, and its end. -/
theorem areShown_pair {c : CodePoint} {rest : Text} (hslash : c ≠ .char '/') (hat : c ≠ .char '@')
    (hnormal : Style.normalize (c :: rest) = .ok (c :: rest))
    (htrim : Text.trimWhile Text.isSpacing (c :: rest) = c :: rest)
    (hknown : Theme.isKnown (c :: rest) = true) :
    areShown [⟨c :: rest, none⟩, ⟨.char '/' :: c :: rest, none⟩] = true := by
  have hopen : Rendering.addTag ⟨c :: rest, none⟩ {} =
      .ok { opened := [⟨⟨c :: rest, none⟩, 0⟩] } := by
    rw [Rendering.addTag]
    split
    · next heq => exact absurd (List.cons.inj heq).1 hslash
    · rw [hnormal]
      rfl
  have hclose : Rendering.addTag ⟨.char '/' :: c :: rest, none⟩
      { opened := [⟨⟨c :: rest, none⟩, 0⟩] } = .ok { spans := [⟨0, 0, some (c :: rest)⟩] } := by
    have hadd : Rendering.addTag ⟨.char '/' :: c :: rest, none⟩
        { opened := [⟨⟨c :: rest, none⟩, 0⟩] } = Rendering.closeNamed
          ⟨.char '/' :: c :: rest, none⟩ (c :: rest) { opened := [⟨⟨c :: rest, none⟩, 0⟩] } := by
      rw [Rendering.addTag]
      split
      · next heq =>
        obtain rfl := (List.cons.inj heq).2
        rw [htrim]
        dsimp only
        rw [hnormal]
        rfl
      · next hother => exact absurd rfl (hother _)
    have hhandler : Tag.isHandler ⟨c :: rest, none⟩ = false := by simp [Tag.isHandler, hat]
    have hstyle : Tag.style ⟨c :: rest, none⟩ = c :: rest := List.append_nil _
    rw [hadd]
    simp [Rendering.closeNamed, Rendering.endSpan, hhandler, hstyle]
  rw [areShown, List.foldlM_cons, hopen]
  change (match (do
    let r ← Rendering.addTag ⟨.char '/' :: c :: rest, none⟩ { opened := [⟨⟨c :: rest, none⟩, 0⟩] }
    [].foldlM (fun r tag => Rendering.addTag tag r) r) with
    | .ok r => r.isReadable
    | .error _ => false) = true
  rw [hclose]
  change (Theme.isKnown (c :: rest) && true) = true
  rw [hknown]
  rfl

theorem render_of_areShown {t : Text} (h : areShown (tags t) = true) :
    ∃ shown, render t = .ok shown ∧ shown.isReadable = true := by
  have hbare := Rendering.bare_pieces (pieces t) {}
  rw [areShown] at h
  change _ = (tags t).foldlM (fun r tag => Rendering.addTag tag r) {} at hbare
  rw [← hbare] at h
  rw [render]
  cases hrun : (pieces t).foldlM Rendering.addPiece {} with
  | error e =>
    rw [hrun] at h
    cases h
  | ok r =>
    rw [hrun] at h
    exact ⟨r.finish, rfl, by rw [r.isReadable_finish, ← r.isReadable_bare]; exact h⟩

end Markup
end ImportStubs.Console
