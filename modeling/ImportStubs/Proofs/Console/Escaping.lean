import ImportStubs.Console.Markup
import Mathlib.Data.List.Infix
import Mathlib.Data.List.TakeWhile

/-!
# Escaped text in markup

Markup is read from the left, so what stands after a text could finish a tag that the text begins,
and what stands before it could make one of its brackets a tag. Neither happens to escaped text
between complete pieces of markup: the tokens of the whole are those of the pieces, and every tag
in the escaped text is literal.
-/

namespace ImportStubs.Console.Markup

/-- What stands between the brackets of a tag. -/
inductive IsContent : Text → Prop
  | intro {first : CodePoint} {rest : Text} : startsTag first = true →
      (∀ c ∈ rest, c ≠ openBracket ∧ c ≠ closeBracket) → IsContent (first :: rest)

theorem startsTag_ne {c d : CodePoint} (h : startsTag c = true) (hd : startsTag d = false) :
    c ≠ d := by
  rintro rfl
  rw [h] at hd
  cases hd

theorem readContent?_eq_some {t content after : Text}
    (h : readContent? t = some (content, after)) :
    t = content ++ closeBracket :: after ∧ ∀ c ∈ content, c ≠ openBracket ∧ c ≠ closeBracket := by
  induction t generalizing content with
  | nil => cases h
  | cons c rest ih =>
    rw [readContent?] at h
    split_ifs at h with hclose hopen
    · obtain ⟨rfl, rfl⟩ := Prod.mk.inj (Option.some.inj h)
      exact ⟨by rw [hclose]; rfl, fun _ hc => absurd hc List.not_mem_nil⟩
    · obtain ⟨⟨content', after'⟩, hrest, heq⟩ := Option.map_eq_some_iff.mp h
      obtain ⟨rfl, rfl⟩ := Prod.mk.inj heq
      obtain ⟨rfl, hcontent⟩ := ih hrest
      exact ⟨rfl, List.forall_mem_cons.mpr ⟨⟨hopen, hclose⟩, hcontent⟩⟩

theorem readContent?_content {content : Text} (after : Text)
    (h : ∀ c ∈ content, c ≠ openBracket ∧ c ≠ closeBracket) :
    readContent? (content ++ closeBracket :: after) = some (content, after) := by
  induction content with
  | nil => rw [List.nil_append, readContent?, if_pos rfl]
  | cons c rest ih =>
    obtain ⟨⟨hopen, hclose⟩, hrest⟩ := List.forall_mem_cons.mp h
    rw [List.cons_append, readContent?, if_neg hclose, if_neg hopen, ih hrest]
    rfl

theorem readTag?_cons_of_ne {c : CodePoint} (h : c ≠ openBracket) (rest : Text) :
    readTag? (c :: rest) = none := by
  cases rest with
  | nil => rfl
  | cons first rest => rw [readTag?, if_neg fun hand => h hand.1]

theorem readTag?_cons_of_not_startsTag {first : CodePoint} (h : startsTag first = false)
    (bracket : CodePoint) (rest : Text) : readTag? (bracket :: first :: rest) = none := by
  rw [readTag?, if_neg]
  rw [h]
  simp

theorem readTag?_open {first : CodePoint} (h : startsTag first = true) (rest : Text) :
    readTag? (openBracket :: first :: rest) =
      (readContent? rest).map fun (content, after) => (first :: content, after) := by
  rw [readTag?, if_pos ⟨rfl, h⟩]

theorem readTag?_eq_some {t content after : Text} (h : readTag? t = some (content, after)) :
    t = bracket content ++ after ∧ IsContent content := by
  match t with
  | [] | [_] => cases h
  | b :: first :: rest =>
    rw [readTag?] at h
    split_ifs at h with hfront
    obtain ⟨⟨content', after'⟩, hrest, heq⟩ := Option.map_eq_some_iff.mp h
    obtain ⟨rfl, rfl⟩ := Prod.mk.inj heq
    obtain ⟨rfl, hcontent⟩ := readContent?_eq_some hrest
    refine ⟨?_, .intro hfront.2 hcontent⟩
    rw [hfront.1]
    simp [bracket]

theorem readTag?_bracket {content : Text} (h : IsContent content) (after : Text) :
    readTag? (bracket content ++ after) = some (content, after) := by
  cases h with
  | @intro first rest hfirst hrest =>
    have hshape : bracket (first :: rest) ++ after =
        openBracket :: first :: (rest ++ closeBracket :: after) := by simp [bracket]
    rw [hshape, readTag?_open hfirst, readContent?_content after hrest]
    rfl

/-- A backslash in front belongs to the tag behind it. -/
theorem readBracketed?_backslash (t : Text) :
    readBracketed? (backslash :: t) = (readTag? (t.dropWhile (· = backslash))).map
      fun (content, after) => (.bracketed ((t.takeWhile (· = backslash)).length + 1) content,
        after) := by
  rw [readBracketed?, List.takeWhile_cons_of_pos (by simp), List.dropWhile_cons_of_pos (by simp),
    List.length_cons]

theorem readBracketed?_backslash_eq_none {t : Text} :
    readBracketed? (backslash :: t) = none ↔ readBracketed? t = none := by
  rw [readBracketed?_backslash, readBracketed?, Option.map_eq_none_iff, Option.map_eq_none_iff]

theorem readBracketed?_of_ne {c : CodePoint} (h : c ≠ backslash) (rest : Text) :
    readBracketed? (c :: rest) =
      (readTag? (c :: rest)).map fun (content, after) => (.bracketed 0 content, after) := by
  rw [readBracketed?, List.takeWhile_cons_of_neg (by simpa using h),
    List.dropWhile_cons_of_neg (by simpa using h), List.length_nil]

theorem readBracketed?_of_ne_of_ne {c : CodePoint} (h : c ≠ backslash) (hopen : c ≠ openBracket)
    (rest : Text) : readBracketed? (c :: rest) = none := by
  rw [readBracketed?_of_ne h, readTag?_cons_of_ne hopen]
  rfl

theorem readBracketed?_open_eq_none {rest : Text} :
    readBracketed? (openBracket :: rest) = none ↔ readTag? (openBracket :: rest) = none := by
  rw [readBracketed?_of_ne (by decide), Option.map_eq_none_iff]

theorem readBracketed?_eq_some {t after : Text} {token : Token}
    (h : readBracketed? t = some (token, after)) :
    ∃ n content, token = .bracketed n content ∧
      t = List.replicate n backslash ++ (bracket content ++ after) ∧ IsContent content := by
  obtain ⟨⟨content, after'⟩, htag, heq⟩ := Option.map_eq_some_iff.mp h
  obtain ⟨rfl, rfl⟩ := Prod.mk.inj heq
  obtain ⟨hrest, hcontent⟩ := readTag?_eq_some htag
  refine ⟨_, content, rfl, ?_, hcontent⟩
  have hslashes : t.takeWhile (· = backslash) =
      List.replicate (t.takeWhile (· = backslash)).length backslash :=
    List.eq_replicate_iff.mpr
      ⟨rfl, fun c hc => by simpa using List.mem_takeWhile_imp hc⟩
  rw [← hrest, ← hslashes, List.takeWhile_append_dropWhile]

theorem readBracketed?_bracket {content : Text} (h : IsContent content) (n : ℕ) (after : Text) :
    readBracketed? (List.replicate n backslash ++ (bracket content ++ after)) =
      some (.bracketed n content, after) := by
  have hslashes : ∀ c ∈ List.replicate n backslash, decide (c = backslash) = true := by simp
  have htake : (bracket content ++ after).takeWhile (· = backslash) = [] := rfl
  have hdrop : (bracket content ++ after).dropWhile (· = backslash) = bracket content ++ after :=
    rfl
  rw [readBracketed?, List.takeWhile_append_of_pos hslashes, List.dropWhile_append_of_pos hslashes,
    htake, hdrop, readTag?_bracket h, List.append_nil, List.length_replicate]
  rfl

theorem tokens_nil : tokens [] = [] := by rw [tokens]

theorem tokens_of_read {t after : Text} {token : Token}
    (h : readBracketed? t = some (token, after)) : tokens t = token :: tokens after := by
  cases t with
  | nil => cases h
  | cons c rest =>
    rw [tokens]
    split
    · next token' after' h' =>
      rw [h] at h'
      obtain ⟨rfl, rfl⟩ := Prod.mk.inj (Option.some.inj h')
      rfl
    · next h' =>
      rw [h] at h'
      cases h'

theorem tokens_of_point {c : CodePoint} {rest : Text} (h : readBracketed? (c :: rest) = none) :
    tokens (c :: rest) = .point c :: tokens rest := by
  rw [tokens]
  split
  · next h' =>
    rw [h] at h'
    cases h'
  · rfl

theorem tokens_bracket {content : Text} (h : IsContent content) (n : ℕ) (after : Text) :
    tokens (List.replicate n backslash ++ (bracket content ++ after)) =
      .bracketed n content :: tokens after := tokens_of_read (readBracketed?_bracket h n after)

/-- From every position of the text on, what follows the text makes no difference to the tag that
is read there. -/
def Independent (t next : Text) : Prop :=
  ∀ s, s <:+ t → s ≠ [] →
    readBracketed? (s ++ next) = (readBracketed? s).map (Prod.map id (· ++ next))

theorem tokens_append {t next : Text} (h : Independent t next) :
    tokens (t ++ next) = tokens t ++ tokens next := by
  induction t using tokens.induct with
  | case1 => rw [tokens_nil, List.nil_append, List.nil_append]
  | case2 c rest token after hread ih =>
    have hnext := h (c :: rest) (List.suffix_refl _) (List.cons_ne_nil c rest)
    rw [hread] at hnext
    obtain ⟨n, content, -, hshape, -⟩ := readBracketed?_eq_some hread
    have hafter : after <:+ c :: rest := by
      rw [hshape, ← List.append_assoc]
      exact List.suffix_append _ _
    rw [tokens_of_read hread, tokens_of_read hnext, List.cons_append]
    exact congrArg (token :: ·) (ih fun s hs hne => h s (hs.trans hafter) hne)
  | case3 c rest hread ih =>
    have hnext := h (c :: rest) (List.suffix_refl _) (List.cons_ne_nil c rest)
    rw [hread] at hnext
    rw [tokens_of_point hread, List.cons_append]
    refine (tokens_of_point hnext).trans (congrArg (Token.point c :: ·) ?_)
    exact ih fun s hs hne => h s (hs.trans (List.suffix_cons c rest)) hne

/-- If not all of the text is backslashes, the tag behind them decides. -/
theorem readBracketed?_append {s next : Text} (hne : s.dropWhile (· = backslash) ≠ [])
    (htag : readTag? (s.dropWhile (· = backslash) ++ next) =
      (readTag? (s.dropWhile (· = backslash))).map (Prod.map id (· ++ next))) :
    readBracketed? (s ++ next) = (readBracketed? s).map (Prod.map id (· ++ next)) := by
  have hdrop : (s ++ next).dropWhile (· = backslash) = s.dropWhile (· = backslash) ++ next := by
    rw [List.dropWhile_append, if_neg (by simpa using hne)]
  have htake : (s ++ next).takeWhile (· = backslash) = s.takeWhile (· = backslash) := by
    rw [List.takeWhile_append, if_neg]
    intro hlength
    have hwhole := (List.takeWhile_prefix _).eq_of_length hlength
    exact hne (List.dropWhile_eq_nil_iff.mpr (List.takeWhile_eq_self_iff.mp hwhole))
  rw [readBracketed?, readBracketed?, hdrop, htake, htag, Option.map_map, Option.map_map]
  rfl

/-- The text neither ends a tag that is open before it nor makes one with backslashes or a bracket
before it. -/
structure EndsNothing (next : Text) : Prop where
  content_eq : readContent? next = none
  bracketed_eq : readBracketed? next = none

theorem readContent?_append {next : Text} (h : readContent? next = none) (s : Text) :
    readContent? (s ++ next) = (readContent? s).map (Prod.map id (· ++ next)) := by
  induction s with
  | nil => exact h
  | cons c rest ih =>
    rw [List.cons_append, readContent?, readContent?]
    split_ifs
    · rfl
    · rfl
    · rw [ih]
      cases readContent? rest <;> rfl

theorem readTag?_append {next : Text} (h : readContent? next = none) {s : Text} (hs : s ≠ []) :
    readTag? (s ++ next) = (readTag? s).map (Prod.map id (· ++ next)) := by
  match s with
  | [] => exact absurd rfl hs
  | [c] =>
    match next with
    | [] => rfl
    | first :: rest =>
      change readTag? (c :: first :: rest) = none
      rw [readTag?]
      split_ifs with hfront
      · have hclose : first ≠ closeBracket := startsTag_ne hfront.2 (by decide)
        have hopen : first ≠ openBracket := startsTag_ne hfront.2 (by decide)
        rw [readContent?, if_neg hclose, if_neg hopen] at h
        rw [Option.map_eq_none_iff] at h ⊢
        exact h
      · rfl
  | c :: first :: rest =>
    rw [List.cons_append, List.cons_append, readTag?, readTag?]
    split_ifs
    · rw [readContent?_append h]
      cases readContent? rest <;> rfl
    · rfl

theorem EndsNothing.independent {next : Text} (h : EndsNothing next) (t : Text) :
    Independent t next := by
  intro s _ _
  by_cases hall : s.dropWhile (· = backslash) = []
  · have hnone := h.bracketed_eq
    rw [readBracketed?, Option.map_eq_none_iff] at hnone
    rw [readBracketed?, readBracketed?, hall,
      List.dropWhile_append_of_pos (List.dropWhile_eq_nil_iff.mp hall), hnone]
    rfl
  · exact readBracketed?_append hall (readTag?_append h.content_eq hall)

def isBracket (c : CodePoint) : Bool := c = openBracket || c = closeBracket

/-- Whatever follows, it is clear what stands at the front. -/
def isDecided (t : Text) : Bool :=
  match t.dropWhile (· = backslash) with
  | [] => false
  | c :: rest => c ≠ openBracket || match rest with
    | [] => false
    | first :: rest => !startsTag first || rest.any isBracket

/-- Whatever follows, no tag can reach into it. -/
def isComplete (t : Text) : Bool := t.tails.all fun s => s.isEmpty || isDecided s

theorem readContent?_append_of_any {s : Text} (h : s.any isBracket = true) (next : Text) :
    readContent? (s ++ next) = (readContent? s).map (Prod.map id (· ++ next)) := by
  induction s with
  | nil => cases h
  | cons c rest ih =>
    rw [List.cons_append, readContent?, readContent?]
    split_ifs with hclose hopen
    · rfl
    · rfl
    · have hc : isBracket c = false := by simp [isBracket, hclose, hopen]
      rw [List.any_cons, hc, Bool.false_or] at h
      rw [ih h]
      cases readContent? rest <;> rfl

theorem readBracketed?_append_of_isDecided {s : Text} (h : isDecided s = true) (next : Text) :
    readBracketed? (s ++ next) = (readBracketed? s).map (Prod.map id (· ++ next)) := by
  rw [isDecided] at h
  refine readBracketed?_append (fun hnil => ?_) ?_
  · rw [hnil] at h
    cases h
  match hrest : s.dropWhile (· = backslash) with
  | [] =>
    rw [hrest] at h
    cases h
  | [c] =>
    rw [hrest] at h
    have hc : c ≠ openBracket := by simpa using h
    rw [List.cons_append, readTag?_cons_of_ne hc, readTag?_cons_of_ne hc]
    rfl
  | c :: first :: rest =>
    rw [hrest] at h
    rw [List.cons_append, List.cons_append, readTag?, readTag?]
    split_ifs with hfront
    · have hany : rest.any isBracket = true := by simpa [hfront.1, hfront.2] using h
      rw [readContent?_append_of_any hany]
      cases readContent? rest <;> rfl
    · rfl

theorem independent_of_isComplete {t : Text} (h : isComplete t = true) (next : Text) :
    Independent t next := by
  intro s hs hne
  have hsuffix := List.all_eq_true.mp h s ((List.mem_tails s t).mpr hs)
  rw [Bool.or_eq_true, List.isEmpty_iff] at hsuffix
  exact readBracketed?_append_of_isDecided (hsuffix.resolve_left hne) next

/-- The text with its tags escaped, before its end is closed. -/
def escapeTags (t : Text) : Text := (tokens t).flatMap escapeToken

/-- A tag with one backslash more than twice as many as it had. -/
def Token.escaped : Token → Token
  | .point c => .point c
  | .bracketed n content => .bracketed (2 * n + 1) content

theorem escapeTags_nil : escapeTags [] = [] := by rw [escapeTags, tokens_nil, List.flatMap_nil]

theorem escapeTags_of_read {t after content : Text} {n : ℕ}
    (h : readBracketed? t = some (.bracketed n content, after)) :
    escapeTags t =
      List.replicate (2 * n + 1) backslash ++ (bracket content ++ escapeTags after) := by
  rw [escapeTags, tokens_of_read h, List.flatMap_cons, escapeToken, List.append_assoc]
  rfl

theorem escapeTags_of_point {c : CodePoint} {rest : Text} (h : readBracketed? (c :: rest) = none) :
    escapeTags (c :: rest) = c :: escapeTags rest := by
  rw [escapeTags, tokens_of_point h]
  rfl

theorem readContent?_slashes (n : ℕ) (t : Text) :
    readContent? (List.replicate n backslash ++ openBracket :: t) = none := by
  induction n with
  | zero => rfl
  | succ n ih =>
    rw [List.replicate_succ, List.cons_append, readContent?, if_neg (by decide),
      if_neg (by decide), ih]
    rfl

/-- Escaping inserts backslashes only, so it keeps the first bracket. -/
theorem readContent?_escapeTags {t : Text} (h : readContent? t = none) :
    readContent? (escapeTags t) = none := by
  induction t using tokens.induct with
  | case1 => rw [escapeTags_nil, h]
  | case2 c rest token after hread ih =>
    obtain ⟨n, content, rfl, -, -⟩ := readBracketed?_eq_some hread
    rw [escapeTags_of_read hread]
    exact readContent?_slashes _ _
  | case3 c rest hread ih =>
    rw [escapeTags_of_point hread]
    rw [readContent?] at h ⊢
    split_ifs at h ⊢ with hclose hopen
    · rfl
    · rw [Option.map_eq_none_iff] at h ⊢
      exact ih h

/-- Where no tag stood, there is none after the escaping of what follows. -/
theorem readBracketed?_escapeTags {t : Text} (h : readBracketed? t = none) :
    readBracketed? (escapeTags t) = none := by
  induction t with
  | nil => rw [escapeTags_nil, h]
  | cons c rest ih =>
    rw [escapeTags_of_point h]
    by_cases hslash : c = backslash
    · subst hslash
      exact readBracketed?_backslash_eq_none.mpr (ih (readBracketed?_backslash_eq_none.mp h))
    by_cases hopen : c = openBracket
    · subst hopen
      rw [readBracketed?_open_eq_none] at h ⊢
      match rest with
      | [] => rw [escapeTags_nil]; rfl
      | first :: rest =>
        cases hfirst : startsTag first with
        | false =>
          rcases hread : readBracketed? (first :: rest) with _ | ⟨token, after⟩
          · rw [escapeTags_of_point hread]
            exact readTag?_cons_of_not_startsTag hfirst _ _
          · obtain ⟨n, content, rfl, -, -⟩ := readBracketed?_eq_some hread
            rw [escapeTags_of_read hread, List.replicate_succ, List.cons_append]
            exact readTag?_cons_of_not_startsTag (by decide) _ _
        | true =>
          have hread : readBracketed? (first :: rest) = none :=
            readBracketed?_of_ne_of_ne (startsTag_ne hfirst (by decide))
              (startsTag_ne hfirst (by decide)) rest
          rw [escapeTags_of_point hread, readTag?_open hfirst, Option.map_eq_none_iff]
          rw [readTag?_open hfirst, Option.map_eq_none_iff] at h
          exact readContent?_escapeTags h
    · exact readBracketed?_of_ne_of_ne hslash hopen _

theorem tokens_escapeTags (t : Text) : tokens (escapeTags t) = (tokens t).map Token.escaped := by
  induction t using tokens.induct with
  | case1 => rw [escapeTags_nil, tokens_nil, List.map_nil]
  | case2 c rest token after hread ih =>
    obtain ⟨n, content, rfl, -, hcontent⟩ := readBracketed?_eq_some hread
    rw [escapeTags_of_read hread, tokens_bracket hcontent, ih, tokens_of_read hread]
    rfl
  | case3 c rest hread ih =>
    have hescaped := readBracketed?_escapeTags hread
    rw [escapeTags_of_point hread] at hescaped ⊢
    rw [tokens_of_point hescaped, ih, tokens_of_point hread]
    rfl

/-- A backslash at the end stands for itself. -/
theorem endsNothing_backslash : EndsNothing [backslash] := ⟨rfl, rfl⟩

theorem escape_eq (t : Text) :
    escape t = escapeTags t ∨ escape t = escapeTags t ++ [backslash] := by
  change closeEnd (escapeTags t) = _ ∨ closeEnd (escapeTags t) = _
  unfold closeEnd
  split <;> first | exact .inl rfl | split_ifs <;> simp

def Piece.tag? : Piece → Option Tag
  | .plain _ => none
  | .tag t => some t

/-- The tags that act in markup, in order. -/
def tags (t : Text) : List Tag := (pieces t).filterMap Piece.tag?

/-- A tag acts after an even number of backslashes. -/
def Token.tag? : Token → Option Tag
  | .point _ => none
  | .bracketed n content => if n % 2 = 1 then none else some (.ofContent content)

theorem filterMap_flush (t : Text) (pieces : List Piece) :
    (flush t pieces).filterMap Piece.tag? = pieces.filterMap Piece.tag? := by
  rw [flush]
  split_ifs
  · rfl
  · rw [List.filterMap_cons, Piece.tag?]

theorem filterMap_bracketedPieces (n : ℕ) (content : Text) :
    (bracketedPieces n content).filterMap Piece.tag? =
      (Token.bracketed n content).tag?.toList := by
  rw [bracketedPieces, filterMap_flush, Token.tag?]
  split_ifs <;> simp [Piece.tag?]

theorem filterMap_group (ts : List Token) :
    (group ts).2.filterMap Piece.tag? = ts.filterMap Token.tag? := by
  induction ts with
  | nil => rfl
  | cons token rest ih =>
    cases token with
    | point c => exact ih
    | bracketed n content =>
      change (bracketedPieces n content ++ flush (group rest).1 (group rest).2).filterMap _ = _
      rw [List.filterMap_append, filterMap_flush, filterMap_bracketedPieces, ih,
        List.filterMap_cons]
      cases (Token.bracketed n content).tag? <;> rfl

theorem tags_eq (t : Text) : tags t = (tokens t).filterMap Token.tag? :=
  (filterMap_flush _ _).trans (filterMap_group (tokens t))

theorem tags_append {t next : Text} (h : Independent t next) :
    tags (t ++ next) = tags t ++ tags next := by
  rw [tags_eq, tags_eq, tags_eq, tokens_append h, List.filterMap_append]

theorem Token.tag?_escaped (token : Token) : token.escaped.tag? = none := by
  cases token with
  | point c => rfl
  | bracketed n content => exact if_pos (by omega)

/-- No tag acts in escaped text. -/
theorem tags_escape (t : Text) : tags (escape t) = [] := by
  have hescaped : tags (escapeTags t) = [] := by
    rw [tags_eq, tokens_escapeTags, List.filterMap_map]
    exact List.filterMap_eq_nil_iff.mpr fun token _ => token.tag?_escaped
  rcases escape_eq t with heq | heq
  · rw [heq, hescaped]
  · have hend : tags [backslash] = [] := by decide +kernel
    rw [heq, tags_append (endsNothing_backslash.independent _), hescaped, hend, List.append_nil]

/-- No tag of escaped text acts, and none that it begins is ended by what follows. -/
theorem tags_escape_append (t : Text) {next : Text} (h : EndsNothing next) :
    tags (escape t ++ next) = tags next := by
  rw [tags_append (h.independent _), tags_escape, List.nil_append]

theorem tags_append_of_isComplete {t : Text} (h : isComplete t = true) (next : Text) :
    tags (t ++ next) = tags t ++ tags next := tags_append (independent_of_isComplete h next)

/-- Nothing in the text has a meaning in markup, whatever stands around it. -/
def Unmarked (t : Text) : Prop := ∀ c ∈ t, c ≠ backslash ∧ c ≠ openBracket

theorem Unmarked.append {t u : Text} (ht : Unmarked t) (hu : Unmarked u) : Unmarked (t ++ u) :=
  List.forall_mem_append.mpr ⟨ht, hu⟩

theorem Unmarked.tags_append {t : Text} (h : Unmarked t) (next : Text) :
    tags (t ++ next) = tags next := by
  rw [tags_eq, tags_eq]
  induction t with
  | nil => rfl
  | cons c rest ih =>
    obtain ⟨⟨hslash, hopen⟩, hrest⟩ := List.forall_mem_cons.mp h
    rw [List.cons_append, tokens_of_point (readBracketed?_of_ne_of_ne hslash hopen _),
      List.filterMap_cons, Token.tag?]
    exact ih hrest

theorem Unmarked.tags_eq_nil {t : Text} (h : Unmarked t) : tags t = [] := by
  have hend : tags [] = [] := by decide +kernel
  rw [← List.append_nil t, h.tags_append, hend]

end ImportStubs.Console.Markup
