import ImportStubs.Proofs.Console.EmojiCodes
import ImportStubs.Proofs.Console.Escaping

/-!
# What escaped text shows

Escaping keeps tags from acting, but it leaves three things to the rendering. A backslash is dropped
in front of a bracket that starts no tag, a known code between two colons is replaced by its emoji,
and a backslash that stands alone at the end is doubled and so shown twice. Escaped text shows
itself exactly if it has none of these.
-/

namespace ImportStubs.Console.Markup

/-- No backslash stands directly in front of an opening bracket. -/
def Bare (t : Text) : Prop := ¬ [backslash, openBracket] <:+: t

theorem bare_cons_iff {c : CodePoint} {t : Text} :
    Bare (c :: t) ↔ ¬ [backslash, openBracket] <+: c :: t ∧ Bare t := by
  rw [Bare, List.infix_cons_iff, not_or, Bare]

theorem unescape_cons_of_not {c d : CodePoint} (h : ¬ (c = backslash ∧ d = openBracket))
    (rest : Text) : unescape (c :: d :: rest) = c :: unescape (d :: rest) := by
  rw [unescape, if_neg h]

theorem unescape_mark (rest : Text) :
    unescape (backslash :: openBracket :: rest) = openBracket :: unescape rest := by
  rw [unescape, if_pos ⟨rfl, rfl⟩]

theorem Bare.unescape_eq {t : Text} (h : Bare t) : unescape t = t := by
  induction t using unescape.induct with
  | case1 => rfl
  | case2 c => rfl
  | case3 c d rest hmark ih =>
    obtain ⟨rfl, rfl⟩ := hmark
    exact absurd (List.infix_append' [] _ rest) h
  | case4 c d rest hmark ih => rw [unescape_cons_of_not hmark, ih (bare_cons_iff.mp h).2]

theorem length_unescape_le (t : Text) : (unescape t).length ≤ t.length := by
  induction t using unescape.induct with
  | case1 => exact Nat.le_refl _
  | case2 c => exact Nat.le_refl _
  | case3 c d rest hmark ih =>
    obtain ⟨rfl, rfl⟩ := hmark
    rw [unescape_mark, List.length_cons, List.length_cons, List.length_cons]
    omega
  | case4 c d rest hmark ih =>
    rw [unescape_cons_of_not hmark, List.length_cons, List.length_cons]
    omega

/-- Nothing is dropped only if there is nothing to drop. -/
theorem bare_of_length {t : Text} (h : (unescape t).length = t.length) : Bare t := by
  induction t using unescape.induct with
  | case1 => exact fun hmark => absurd hmark.length_le (by decide)
  | case2 c => exact fun hmark => absurd hmark.length_le (by simp)
  | case3 c d rest hmark ih =>
    obtain ⟨rfl, rfl⟩ := hmark
    rw [unescape_mark] at h
    have hle := length_unescape_le rest
    simp only [List.length_cons] at h
    omega
  | case4 c d rest hmark ih =>
    rw [unescape_cons_of_not hmark, List.length_cons, List.length_cons] at h
    refine bare_cons_iff.mpr ⟨fun hfront => hmark ?_, ih (by omega)⟩
    rw [List.cons_prefix_cons, List.cons_prefix_cons] at hfront
    exact ⟨hfront.1.symm, hfront.2.1.symm⟩

theorem unescape_concat {c : CodePoint} (h : c ≠ openBracket) (t : Text) :
    unescape (t ++ [c]) = unescape t ++ [c] := by
  induction t using unescape.induct with
  | case1 => rfl
  | case2 d => exact unescape_cons_of_not (fun hmark => h hmark.2) []
  | case3 d e rest hmark ih =>
    obtain ⟨rfl, rfl⟩ := hmark
    rw [unescape_mark, List.cons_append, List.cons_append, unescape_mark, ih, List.cons_append]
  | case4 d e rest hmark ih =>
    rw [unescape_cons_of_not hmark, List.cons_append, List.cons_append,
      unescape_cons_of_not hmark, ← List.cons_append, ih, List.cons_append]

theorem count_colon_unescape (t : Text) :
    (unescape t).count (.char ':') = t.count (.char ':') := by
  induction t using unescape.induct with
  | case1 => rfl
  | case2 c => rfl
  | case3 c d rest hmark ih =>
    obtain ⟨rfl, rfl⟩ := hmark
    rw [unescape_mark, List.count_cons_of_ne (by decide), List.count_cons_of_ne (by decide),
      List.count_cons_of_ne (by decide), ih]
  | case4 c d rest hmark ih =>
    rw [unescape_cons_of_not hmark, List.count_cons, ih, ← List.count_cons]

/-- No code point of the text is hidden. -/
def Visible (t : Text) : Prop := ∀ c ∈ t, isHidden c = false

theorem Visible.filter_eq {t : Text} (h : Visible t) : (t.filter fun c => !isHidden c) = t :=
  List.filter_eq_self.mpr fun c hc => by rw [h c hc]; rfl

theorem showPlain_nil : showPlain [] = [] := by
  rw [showPlain, unescape, Emoji.replace_nil, List.filter_nil]

theorem showPlain_concat_backslash (t : Text) :
    showPlain (t ++ [backslash]) = showPlain t ++ [backslash] := by
  rw [showPlain, unescape_concat (by decide), Emoji.replace_concat (by decide),
    List.filter_append]
  rfl

theorem showPlain_eq_self {t : Text} (hvisible : Visible t) (hbare : Bare t)
    (hcodes : Emoji.AsksNothing t) : showPlain t = t := by
  rw [showPlain, hbare.unescape_eq, hcodes.replace_eq, hvisible.filter_eq]

theorem count_colon_showPlain (t : Text) : (showPlain t).count (.char ':') =
    (Emoji.replace (unescape t)).count (.char ':') :=
  List.count_filter (by decide)

theorem count_colon_showPlain_le (t : Text) :
    (showPlain t).count (.char ':') ≤ t.count (.char ':') := by
  rw [count_colon_showPlain, ← count_colon_unescape t]
  exact Emoji.count_colon_replace_le _

/-- With all colons of a text, all that can be shown of it is shown. -/
theorem asksNothing_of_showPlain {t : Text}
    (h : (showPlain t).count (.char ':') = t.count (.char ':')) :
    Emoji.AsksNothing (unescape t) := by
  rw [count_colon_showPlain, ← count_colon_unescape t] at h
  exact Emoji.asksNothing_of_count h

/-- What a token is read from. -/
def Token.source : Token → Text
  | .point c => [c]
  | .bracketed n content => List.replicate n backslash ++ bracket content

theorem flatMap_source (t : Text) : (tokens t).flatMap Token.source = t := by
  induction t using tokens.induct with
  | case1 => rw [tokens_nil, List.flatMap_nil]
  | case2 c rest token after hread ih =>
    obtain ⟨n, content, rfl, hshape, -⟩ := readBracketed?_eq_some hread
    rw [tokens_of_read hread, List.flatMap_cons, ih, hshape, Token.source, List.append_assoc]
  | case3 c rest hread ih =>
    rw [tokens_of_point hread, List.flatMap_cons, ih]
    rfl

/-- The text up to the first tag; then for each tag the backslashes in front of it, its brackets
with what they hold, and the text up to the next one. -/
def split : List Token → Text × List Text
  | [] => ([], [])
  | .point c :: rest => (c :: (split rest).1, (split rest).2)
  | .bracketed n content :: rest =>
    ([], List.replicate n backslash :: bracket content :: (split rest).1 :: (split rest).2)

/-- The parts of some tokens, which are shown one by one. -/
def partsOf (ts : List Token) : List Text := (split ts).1 :: (split ts).2

def parts (t : Text) : List Text := partsOf (tokens t)

theorem partsOf_point (c : CodePoint) (ts : List Token) :
    partsOf (.point c :: ts) = (c :: (split ts).1) :: (split ts).2 := rfl

theorem partsOf_bracketed (n : ℕ) (content : Text) (ts : List Token) :
    partsOf (.bracketed n content :: ts) =
      [] :: List.replicate n backslash :: bracket content :: partsOf ts := rfl

theorem flatten_partsOf (ts : List Token) : (partsOf ts).flatten = ts.flatMap Token.source := by
  induction ts with
  | nil => rfl
  | cons token ts ih =>
    cases token with
    | point c => exact congrArg (c :: ·) ih
    | bracketed n content =>
      rw [partsOf_bracketed, List.flatMap_cons, Token.source, ← ih]
      simp

theorem flatten_parts (t : Text) : (parts t).flatten = t :=
  (flatten_partsOf (tokens t)).trans (flatMap_source t)

theorem mem_of_mem_parts {t p : Text} {c : CodePoint} (hp : p ∈ parts t) (hc : c ∈ p) : c ∈ t := by
  rw [← flatten_parts t]
  exact List.mem_flatten_of_mem hp hc

/-- A code point at the end belongs to the last part. -/
theorem partsOf_concat (c : CodePoint) (ts : List Token) : ∃ before last,
    partsOf ts = before ++ [last] ∧ partsOf (ts ++ [.point c]) = before ++ [last ++ [c]] := by
  induction ts with
  | nil => exact ⟨[], [], rfl, rfl⟩
  | cons token ts ih =>
    obtain ⟨before, last, hparts, hconcat⟩ := ih
    cases token with
    | point d =>
      rw [List.cons_append, partsOf_point, partsOf_point]
      cases before with
      | nil =>
        obtain ⟨hfirst, hrest⟩ := List.cons.inj hparts
        obtain ⟨hfirst', hrest'⟩ := List.cons.inj hconcat
        exact ⟨[], d :: last, by rw [hfirst, hrest]; rfl, by rw [hfirst', hrest']; rfl⟩
      | cons first before =>
        obtain ⟨hfirst, hrest⟩ := List.cons.inj hparts
        obtain ⟨hfirst', hrest'⟩ := List.cons.inj hconcat
        exact ⟨(d :: first) :: before, last, by rw [hfirst, hrest]; rfl,
          by rw [hfirst', hrest']; rfl⟩
    | bracketed n content =>
      rw [List.cons_append, partsOf_bracketed, partsOf_bracketed, hparts, hconcat]
      exact ⟨[] :: List.replicate n backslash :: bracket content :: before, last, rfl, rfl⟩

/-- What the parts of some tokens show. -/
def shownOf (ts : List Token) : Text := (partsOf ts).flatMap showPlain

/-- A backslash at the end is shown behind the rest. -/
theorem shownOf_concat_backslash (ts : List Token) :
    shownOf (ts ++ [.point backslash]) = shownOf ts ++ [backslash] := by
  obtain ⟨before, last, hparts, hconcat⟩ := partsOf_concat backslash ts
  rw [shownOf, shownOf, hparts, hconcat, List.flatMap_append, List.flatMap_append,
    List.flatMap_singleton, List.flatMap_singleton, showPlain_concat_backslash, List.append_assoc]

/-- What a piece adds to the text. -/
def Piece.shown : Piece → Text
  | .plain t => showPlain t
  | .tag _ => []

theorem foldlM_addPiece {pieces : List Piece} (h : pieces.filterMap Piece.tag? = [])
    (r : Rendering) : pieces.foldlM Rendering.addPiece r =
      .ok { r with text := r.text ++ pieces.flatMap Piece.shown } := by
  induction pieces generalizing r with
  | nil => simp [pure, Except.pure]
  | cons piece rest ih =>
    cases piece with
    | plain t =>
      rw [List.foldlM_cons, Rendering.addPiece]
      refine (ih h _).trans ?_
      rw [List.flatMap_cons, ← List.append_assoc]
      rfl
    | tag tag => cases h

theorem render_of_tags_eq_nil {t : Text} (h : tags t = []) :
    render t = .ok { text := (pieces t).flatMap Piece.shown, spans := [] } := by
  rw [render, foldlM_addPiece h, Except.map, Rendering.finish]
  simp

theorem shown_flush (t : Text) (pieces : List Piece) :
    (flush t pieces).flatMap Piece.shown = showPlain t ++ pieces.flatMap Piece.shown := by
  rw [flush]
  split_ifs with hempty
  · rw [List.isEmpty_iff.mp hempty, showPlain_nil, List.nil_append]
  · rfl

/-- With its tags escaped, every part of a text is shown on its own. -/
theorem shown_group_escaped (ts : List Token) :
    (group (ts.map Token.escaped)).1 = (split ts).1 ∧
      (group (ts.map Token.escaped)).2.flatMap Piece.shown = (split ts).2.flatMap showPlain := by
  induction ts with
  | nil => exact ⟨rfl, rfl⟩
  | cons token ts ih =>
    cases token with
    | point c => exact ⟨congrArg (c :: ·) ih.1, ih.2⟩
    | bracketed n content =>
      refine ⟨rfl, ?_⟩
      have hhalf : (2 * n + 1) / 2 = n := by omega
      have hodd : (2 * n + 1) % 2 = 1 := by omega
      have hpieces : bracketedPieces (2 * n + 1) content =
          flush (List.replicate n backslash) [.plain (bracket content)] := by
        rw [bracketedPieces, hhalf, if_pos hodd]
      change (bracketedPieces (2 * n + 1) content ++ flush (group (ts.map Token.escaped)).1
        (group (ts.map Token.escaped)).2).flatMap Piece.shown = _
      rw [hpieces, List.flatMap_append, shown_flush, shown_flush, ih.1, ih.2]
      simp [split, Piece.shown]

theorem shown_pieces {t : Text} {ts : List Token} (h : tokens t = ts.map Token.escaped) :
    (pieces t).flatMap Piece.shown = shownOf ts := by
  obtain ⟨hfirst, hrest⟩ := shown_group_escaped ts
  have hpieces : pieces t = flush (group (ts.map Token.escaped)).1
      (group (ts.map Token.escaped)).2 := by rw [pieces, h]
  rw [hpieces, shown_flush, hfirst, hrest]
  rfl

/-- The text ends in exactly one backslash. -/
def EndsAlone (t : Text) : Prop :=
  t.getLast? = some backslash ∧ t.dropLast.getLast? ≠ some backslash

instance (t : Text) : Decidable (EndsAlone t) := inferInstanceAs (Decidable (_ ∧ _))

theorem endsAlone_concat_iff {t : Text} {c : CodePoint} :
    EndsAlone (t ++ [c]) ↔ c = backslash ∧ t.getLast? ≠ some backslash := by
  rw [EndsAlone, List.getLast?_concat, List.dropLast_concat, Option.some_inj]

theorem closeEnd_eq (t : Text) : closeEnd t = if EndsAlone t then t ++ [backslash] else t := by
  rcases List.eq_nil_or_concat' t with rfl | ⟨before, c, rfl⟩
  · rfl
  rcases List.eq_nil_or_concat' before with rfl | ⟨before, d, rfl⟩
  · rw [if_congr endsAlone_concat_iff rfl rfl]
    simp [closeEnd]
  · rw [if_congr endsAlone_concat_iff rfl rfl]
    simp [closeEnd]

theorem getLast?_bracketed (slashes content : Text) :
    (slashes ++ bracket content).getLast? = some closeBracket := by
  rw [bracket, ← List.append_assoc, List.getLast?_concat]

/-- Escaping leaves the last code point of every token as it is. -/
theorem getLast?_escapeToken (token : Token) :
    (escapeToken token).getLast? = token.source.getLast? := by
  cases token with
  | point c => rfl
  | bracketed n content =>
    rw [escapeToken, getLast?_bracketed, Token.source, getLast?_bracketed]

/-- Tokens end in a single backslash exactly if it is one of them, and no other stands before it. -/
theorem endsAlone_tokens_iff {read : Token → Text} (hpoint : ∀ c, read (.point c) = [c])
    (hlast : ∀ token, (read token).getLast? = token.source.getLast?) (ts : List Token) :
    EndsAlone (ts.flatMap read) ↔ ∃ before, ts = before ++ [.point backslash] ∧
      (before.flatMap Token.source).getLast? ≠ some backslash := by
  have hbefore : ∀ before : List Token,
      (before.flatMap read).getLast? = (before.flatMap Token.source).getLast? := by
    intro before
    induction before with
    | nil => rfl
    | cons token before ih =>
      rw [List.flatMap_cons, List.flatMap_cons, List.getLast?_append, List.getLast?_append, ih,
        hlast]
  constructor
  · intro hend
    rcases List.eq_nil_or_concat' ts with rfl | ⟨before, token, rfl⟩
    · cases hend.1
    rw [List.flatMap_append, List.flatMap_singleton] at hend
    cases token with
    | point c =>
      rw [hpoint, endsAlone_concat_iff, hbefore] at hend
      rw [hend.1]
      exact ⟨before, rfl, hend.2⟩
    | bracketed n content =>
      have hclose := hend.1
      rw [List.getLast?_append, hlast, Token.source, getLast?_bracketed] at hclose
      cases hclose
  · rintro ⟨before, rfl, hother⟩
    rw [List.flatMap_append, List.flatMap_singleton, hpoint, endsAlone_concat_iff, hbefore]
    exact ⟨rfl, hother⟩

theorem endsAlone_iff {t : Text} : EndsAlone t ↔ ∃ before, tokens t = before ++ [.point backslash] ∧
    (before.flatMap Token.source).getLast? ≠ some backslash := by
  rw [← endsAlone_tokens_iff (fun _ => rfl) fun _ => rfl, flatMap_source]

theorem endsAlone_escapeTags_iff {t : Text} : EndsAlone (escapeTags t) ↔ EndsAlone t := by
  rw [escapeTags, endsAlone_tokens_iff (fun _ => rfl) getLast?_escapeToken, endsAlone_iff]

/-- What a text shows when it is escaped. -/
def shownText (t : Text) : Text :=
  shownOf (tokens t) ++ if EndsAlone t then [backslash] else []

/-- Escaped text can always be rendered, and without any style. -/
theorem render_escape (t : Text) :
    render (escape t) = .ok { text := shownText t, spans := [] } := by
  rw [render_of_tags_eq_nil (tags_escape t), shownText]
  have hescape : escape t = if EndsAlone t then escapeTags t ++ [backslash] else escapeTags t := by
    rw [← if_congr endsAlone_escapeTags_iff rfl rfl, ← closeEnd_eq]
    rfl
  rw [hescape]
  split_ifs with hend
  · have htokens : tokens (escapeTags t ++ [backslash]) =
        (tokens t ++ [Token.point backslash]).map Token.escaped := by
      have hlast : tokens [backslash] = [.point backslash] := by
        rw [tokens_of_point rfl, tokens_nil]
      rw [tokens_append (endsNothing_backslash.independent _), tokens_escapeTags, hlast,
        List.map_append]
      rfl
    rw [shown_pieces htokens, shownOf_concat_backslash]
  · rw [shown_pieces (tokens_escapeTags t), List.append_nil]

/-- A text that shows itself when it is escaped. -/
structure ShowsItself (t : Text) : Prop where
  /-- It does not end in a single backslash. -/
  ending : ¬ EndsAlone t
  /-- No backslash stands in front of a bracket that starts no tag. -/
  brackets : ∀ p ∈ parts t, Bare p
  /-- Nothing between two colons is known as an emoji. -/
  codes : ∀ p ∈ parts t, Emoji.AsksNothing p

/-- If no part grows and the whole does not shrink, every part keeps its measure. -/
theorem measure_eq_of_flatMap {measure : Text → ℕ} {f : Text → Text} {ps : List Text}
    (happend : ∀ a b, measure (a ++ b) = measure a + measure b)
    (hle : ∀ p ∈ ps, measure (f p) ≤ measure p)
    (h : measure (ps.flatMap f) = measure ps.flatten) : ∀ p ∈ ps, measure (f p) = measure p := by
  have hflat : ∀ qs : List Text, (∀ q ∈ qs, measure (f q) ≤ measure q) →
      measure (qs.flatMap f) ≤ measure qs.flatten := by
    intro qs hqs
    induction qs with
    | nil => exact Nat.le_refl _
    | cons q qs ih =>
      obtain ⟨hq, hrest⟩ := List.forall_mem_cons.mp hqs
      rw [List.flatMap_cons, List.flatten_cons, happend, happend]
      exact Nat.add_le_add hq (ih hrest)
  induction ps with
  | nil => exact fun _ hp => absurd hp List.not_mem_nil
  | cons p ps ih =>
    obtain ⟨hp, hrest⟩ := List.forall_mem_cons.mp hle
    rw [List.flatMap_cons, List.flatten_cons, happend, happend] at h
    have hps := hflat ps hrest
    exact List.forall_mem_cons.mpr ⟨by omega, ih hrest (by omega)⟩

theorem shownText_of_endsAlone {t : Text} (h : EndsAlone t) :
    ∃ before, shownText t = before ++ [backslash] ++ [backslash] := by
  obtain ⟨before, htokens, -⟩ := endsAlone_iff.mp h
  refine ⟨shownOf before, ?_⟩
  rw [shownText, if_pos h, htokens, shownOf_concat_backslash]

theorem ShowsItself.shownText_eq {t : Text} (h : ShowsItself t) (hvisible : Visible t) :
    shownText t = t := by
  have hparts : ∀ p ∈ parts t, showPlain p = p := fun p hp =>
    showPlain_eq_self (fun c hc => hvisible c (mem_of_mem_parts hp hc)) (h.brackets p hp)
      (h.codes p hp)
  calc shownText t = (parts t).flatMap showPlain := by
        rw [shownText, if_neg h.ending, List.append_nil]
        rfl
    _ = (parts t).flatten := by
        rw [List.flatMap_def, List.map_congr_left (g := id) hparts, List.map_id]
    _ = t := flatten_parts t

/-- Without an emoji, what is shown is no longer than what is left after dropping backslashes. -/
theorem length_showPlain_le {p : Text} (hcodes : Emoji.AsksNothing (unescape p)) :
    (showPlain p).length ≤ (unescape p).length := by
  rw [showPlain, hcodes.replace_eq]
  exact List.length_filter_le _ _

theorem showsItself_of_shownText {t : Text} (h : shownText t = t) : ShowsItself t := by
  have hending : ¬ EndsAlone t := by
    intro hend
    obtain ⟨before, hshown⟩ := shownText_of_endsAlone hend
    rw [h] at hshown
    rw [hshown, endsAlone_concat_iff, List.getLast?_concat] at hend
    exact hend.2 rfl
  have hflat : (parts t).flatMap showPlain = (parts t).flatten := by
    rw [shownText, if_neg hending, List.append_nil] at h
    rw [flatten_parts]
    exact h
  -- first no colon is missing, so no emoji is shown, and then no backslash is missing
  have hcodes : ∀ p ∈ parts t, Emoji.AsksNothing (unescape p) := fun p hp =>
    asksNothing_of_showPlain <| measure_eq_of_flatMap (fun _ _ => List.count_append)
      (fun q _ => count_colon_showPlain_le q) (congrArg (List.count (.char ':')) hflat) p hp
  have hlength : ∀ p ∈ parts t, (showPlain p).length = p.length :=
    measure_eq_of_flatMap (fun _ _ => List.length_append)
      (fun p hp => (length_showPlain_le (hcodes p hp)).trans (length_unescape_le p))
      (congrArg List.length hflat)
  have hbare : ∀ p ∈ parts t, Bare p := by
    intro p hp
    have hle := length_unescape_le p
    have hshown := length_showPlain_le (hcodes p hp)
    exact bare_of_length (by have := hlength p hp; omega)
  exact {
    ending := hending
    brackets := hbare
    codes := fun p hp => by
      rw [← (hbare p hp).unescape_eq]
      exact hcodes p hp }

theorem shownText_eq_self_iff {t : Text} (hvisible : Visible t) :
    shownText t = t ↔ ShowsItself t :=
  ⟨showsItself_of_shownText, fun h => h.shownText_eq hvisible⟩

/-- Brackets alone do no harm. -/
theorem showsItself_of_notMem {t : Text} (hslash : backslash ∉ t) (hcolon : .char ':' ∉ t) :
    ShowsItself t where
  ending hend := hslash (List.mem_of_getLast? hend.1)
  brackets p hp hmark :=
    hslash (mem_of_mem_parts hp (hmark.subset (List.mem_cons_self ..)))
  codes p hp := by
    have hnone : .char ':' ∉ p := fun hc => hcolon (mem_of_mem_parts hp hc)
    refine Emoji.asksNothing_of_count ?_
    rw [Emoji.replace_of_not_mem hnone]

end ImportStubs.Console.Markup
