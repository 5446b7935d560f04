import ImportStubs.Console.Emoji
import Mathlib.Data.String.Basic
import Mathlib.Tactic.Common

/-!
# Codes in text and their emoji

A text asks for emoji by codes, which are read one after another from the left. No emoji contains a
colon, so with each code that is known two colons go, and the text stays as it is exactly if it asks
for no emoji that is known.
-/

namespace ImportStubs.Console.Emoji

/-- Strings with their characters. -/
inductive Spelled : List String → List (List Char) → Prop
  | nil : Spelled [] []
  | cons {cs : List Char} {rest : List String} {css : List (List Char)} :
      Spelled rest css → Spelled (String.ofList cs :: rest) (cs :: css)

theorem Spelled.toList_mem {strings : List String} {css : List (List Char)}
    (h : Spelled strings css) : ∀ s ∈ strings, s.toList ∈ css := by
  induction h with
  | nil => exact fun _ hs => absurd hs List.not_mem_nil
  | @cons cs rest css _ ih =>
    rw [List.forall_mem_cons, String.toList_ofList]
    exact ⟨List.mem_cons_self .., fun s hs => List.mem_cons_of_mem _ (ih s hs)⟩

theorem spelled_codes :
    ∃ css, Spelled codes css ∧ css.all (fun cs => cs.all (· != ':')) = true := by
  apply Exists.intro
  apply And.intro
  · unfold codes
    repeat apply Spelled.cons
    exact .nil
  · decide +kernel

theorem colon_notMem_codes : ∀ s ∈ codes, ':' ∉ s.toList := by
  obtain ⟨css, hspelled, hall⟩ := spelled_codes
  intro s hs hcolon
  have hchars := List.all_eq_true.mp hall _ (hspelled.toList_mem s hs)
  simpa using List.all_eq_true.mp hchars ':' hcolon

theorem mem_of_mem_go₂ {cs : List Char} {i e : String.Pos.Raw} {c : Char}
    (h : c ∈ String.Pos.Raw.extract.go₂ cs i e) : c ∈ cs := by
  induction cs generalizing i with
  | nil => exact h
  | cons d rest ih =>
    rw [String.Pos.Raw.extract.go₂] at h
    split_ifs at h
    · exact absurd h List.not_mem_nil
    · exact (List.mem_cons.mp h).elim (fun heq => heq ▸ List.mem_cons_self ..)
        fun hrest => List.mem_cons_of_mem _ (ih hrest)

theorem mem_of_mem_go₁ {cs : List Char} {i b e : String.Pos.Raw} {c : Char}
    (h : c ∈ String.Pos.Raw.extract.go₁ cs i b e) : c ∈ cs := by
  induction cs generalizing i with
  | nil => exact h
  | cons d rest ih =>
    rw [String.Pos.Raw.extract.go₁] at h
    split_ifs at h
    · exact mem_of_mem_go₂ h
    · exact List.mem_cons_of_mem _ (ih h)

theorem mem_of_mem_extract {s : String} {b e : String.Pos.Raw} {c : Char}
    (h : c ∈ (String.Pos.Raw.extract s b e).toList) : c ∈ s.toList := by
  rw [String.Pos.Raw.extract] at h
  split_ifs at h
  · exact absurd h (by simp)
  · rw [String.toList_ofList] at h
    exact mem_of_mem_go₁ h

/-- Splitting keeps characters out that a string has not. -/
theorem notMem_splitOn {s sep : String} {c : Char} (h : c ∉ s.toList) :
    ∀ part ∈ s.splitOn sep, c ∉ part.toList := by
  have haux : ∀ (b i j : String.Pos.Raw) (parts : List String),
      (∀ part ∈ parts, c ∉ part.toList) →
        ∀ part ∈ s.splitOnAux sep b i j parts, c ∉ part.toList := by
    intro b i j parts
    induction b, i, j, parts using String.splitOnAux.induct s sep with
    | case1 b i j parts hend =>
      intro hparts
      rw [String.splitOnAux, if_pos hend]
      intro part hpart
      rcases List.mem_cons.mp (List.mem_reverse.mp hpart) with rfl | hpart
      · exact fun hc => h (mem_of_mem_extract hc)
      · exact hparts part hpart
    | case2 b i j parts hend hsame i' j' hfull ih =>
      intro hparts
      rw [String.splitOnAux, if_neg hend, if_pos hsame]
      simp only []
      rw [if_pos hfull]
      refine ih (List.forall_mem_cons.mpr ⟨fun hc => h (mem_of_mem_extract hc), hparts⟩)
    | case3 b i j parts hend hsame i' j' hfull ih =>
      intro hparts
      rw [String.splitOnAux, if_neg hend, if_pos hsame]
      simp only []
      rw [if_neg hfull]
      exact ih hparts
    | case4 b i j parts hend hsame ih =>
      intro hparts
      rw [String.splitOnAux, if_neg hend, if_neg hsame]
      exact ih hparts
  rw [String.splitOn]
  split_ifs
  · exact List.forall_mem_singleton.mpr h
  · exact haux 0 0 0 [] fun _ hpart => absurd hpart List.not_mem_nil

theorem mem_of_mem_pairs {words : List String} {e : String × String} (h : e ∈ table.pairs words) :
    e.2 ∈ words := by
  induction words using table.pairs.induct with
  | case1 name emoji rest ih =>
    rcases List.mem_cons.mp h with rfl | h
    · simp
    · exact List.mem_cons_of_mem _ (List.mem_cons_of_mem _ (ih h))
  | case2 words hshort =>
    rw [table.pairs] at h
    · exact absurd h List.not_mem_nil
    · exact hshort

theorem colon_notMem_table : ∀ e ∈ table, ':' ∉ e.2.toList := by
  intro e he
  obtain ⟨s, hs, hpart⟩ := List.mem_flatMap.mp (mem_of_mem_pairs he)
  exact notMem_splitOn (colon_notMem_codes s hs) _ hpart

/-- An emoji with its selector has no colon. -/
theorem colon_notMem_of_ofCode? {code emoji : Text} (h : ofCode? code = some emoji) :
    .char ':' ∉ emoji := by
  obtain ⟨name, hname, rfl⟩ := Option.map_eq_some_iff.mp h
  obtain ⟨e, he, rfl⟩ := Option.map_eq_some_iff.mp hname
  have hemoji : .char ':' ∉ Text.ofString e.2 := by
    intro hmem
    obtain ⟨c, hc, hcolon⟩ := List.mem_map.mp hmem
    cases hcolon
    exact colon_notMem_table e (List.mem_of_find?_eq_some he) hc
  have hselector : .char ':' ∉ (splitForm code).2 := by
    rw [splitForm]
    split
    · next suffix selector hform =>
      have hmem := List.mem_of_find?_eq_some hform
      intro hcolon
      cases List.mem_singleton.mp hcolon
      revert hmem
      simp [forms]
    · exact List.not_mem_nil
  exact fun hmem => (List.mem_append.mp hmem).elim hemoji hselector

/-- The codes that a text is read to ask for, from the left. -/
def asked (t : Text) : List Text :=
  match t with
  | [] => []
  | c :: rest =>
    if c = .char ':' then
      match _h : readCode? rest with
      | none => asked rest
      | some (code, after) => code :: asked after
    else asked rest
termination_by t.length
decreasing_by
  all_goals simp only [List.length_cons]
  all_goals first | omega | have := length_of_readCode? _h; omega

variable {c : CodePoint} {rest code after : Text}

theorem asked_cons_of_ne (h : c ≠ .char ':') : asked (c :: rest) = asked rest := by
  rw [asked, if_neg h]

theorem asked_of_none (h : readCode? rest = none) : asked (.char ':' :: rest) = asked rest := by
  rw [asked, if_pos rfl]
  split
  · rfl
  · next h' => rw [h] at h'; cases h'

theorem asked_of_read (h : readCode? rest = some (code, after)) :
    asked (.char ':' :: rest) = code :: asked after := by
  rw [asked, if_pos rfl]
  split
  · next h' => rw [h] at h'; cases h'
  · next h' =>
    rw [h] at h'
    cases h'
    rfl

theorem replace_nil : replace [] = [] := by rw [replace]

theorem replace_cons_of_ne (h : c ≠ .char ':') : replace (c :: rest) = c :: replace rest := by
  rw [replace, if_neg h]

theorem replace_of_none (h : readCode? rest = none) :
    replace (.char ':' :: rest) = .char ':' :: replace rest := by
  rw [replace, if_pos rfl]
  split
  · rfl
  · next h' => rw [h] at h'; cases h'

theorem replace_of_read (h : readCode? rest = some (code, after)) :
    replace (.char ':' :: rest) =
      (ofCode? code).getD (.char ':' :: code ++ [.char ':']) ++ replace after := by
  rw [replace, if_pos rfl]
  split
  · next h' => rw [h] at h'; cases h'
  · next h' =>
    rw [h] at h'
    cases h'
    rfl

theorem readCode?_eq_some (h : readCode? rest = some (code, after)) :
    rest = code ++ .char ':' :: after ∧ .char ':' ∉ code := by
  induction rest generalizing code with
  | nil => cases h
  | cons c rest ih =>
    rw [readCode?] at h
    split_ifs at h with hcolon
    · cases h
      exact ⟨by rw [hcolon]; rfl, List.not_mem_nil⟩
    · obtain ⟨⟨code', after'⟩, hread, heq⟩ := Option.map_eq_some_iff.mp h
      cases heq
      obtain ⟨rfl, hcode⟩ := ih hread
      refine ⟨rfl, fun hmem => ?_⟩
      exact (List.mem_cons.mp hmem).elim (fun heq => hcolon heq.symm) hcode

/-- What follows the text changes a code in it only by another colon. -/
theorem readCode?_concat (h : c ≠ .char ':') (t : Text) :
    readCode? (t ++ [c]) = (readCode? t).map (Prod.map id (· ++ [c])) := by
  induction t with
  | nil =>
    have hlast : readCode? [c] = none := by simp [readCode?, h]
    exact hlast
  | cons d rest ih =>
    rw [List.cons_append, readCode?, readCode?]
    split_ifs
    · rfl
    · rfl
    · rw [ih]
      cases readCode? rest <;> rfl

theorem replace_concat (h : c ≠ .char ':') (t : Text) : replace (t ++ [c]) = replace t ++ [c] := by
  induction t using asked.induct with
  | case1 => rw [List.nil_append, replace_cons_of_ne h, replace_nil, List.nil_append]
  | case2 rest hread ih =>
    have hread' : readCode? (rest ++ [c]) = none := by
      rw [readCode?_concat h, hread]
      rfl
    rw [List.cons_append, replace_of_none hread', replace_of_none hread, ih, List.cons_append]
  | case3 rest code after hread ih =>
    have hread' : readCode? (rest ++ [c]) = some (code, after ++ [c]) := by
      rw [readCode?_concat h, hread]
      rfl
    rw [List.cons_append, replace_of_read hread', replace_of_read hread, ih, List.append_assoc]
  | case4 d rest hd ih =>
    rw [List.cons_append, replace_cons_of_ne hd, replace_cons_of_ne hd, ih, List.cons_append]

/-- Two colons go with each known code. -/
theorem count_colon_replace (t : Text) :
    (replace t).count (.char ':') + 2 * (asked t).countP (fun code => (ofCode? code).isSome) =
      t.count (.char ':') := by
  induction t using asked.induct with
  | case1 => rw [replace_nil, asked]; rfl
  | case2 rest hread ih =>
    rw [replace_of_none hread, asked_of_none hread, List.count_cons_self, List.count_cons_self]
    omega
  | case3 rest code after hread ih =>
    obtain ⟨rfl, hcode⟩ := readCode?_eq_some hread
    rw [replace_of_read hread, asked_of_read hread]
    have hcount := List.count_eq_zero_of_not_mem hcode
    cases hemoji : ofCode? code with
    | none =>
      simp [hemoji, hcount]
      omega
    | some emoji =>
      have hempty := List.count_eq_zero_of_not_mem (colon_notMem_of_ofCode? hemoji)
      simp [hemoji, hcount, hempty]
      omega
  | case4 d rest hd ih =>
    rw [replace_cons_of_ne hd, asked_cons_of_ne hd, List.count_cons_of_ne hd,
      List.count_cons_of_ne hd, ih]

/-- No code of the text is known. -/
def AsksNothing (t : Text) : Prop := ∀ code ∈ asked t, ofCode? code = none

theorem AsksNothing.replace_eq {t : Text} (h : AsksNothing t) : replace t = t := by
  induction t using asked.induct with
  | case1 => exact replace_nil
  | case2 rest hread ih =>
    rw [AsksNothing, asked_of_none hread] at h
    rw [replace_of_none hread, ih h]
  | case3 rest code after hread ih =>
    rw [AsksNothing, asked_of_read hread, List.forall_mem_cons] at h
    obtain ⟨rfl, -⟩ := readCode?_eq_some hread
    rw [replace_of_read hread, h.1, ih h.2]
    simp
  | case4 d rest hd ih =>
    rw [AsksNothing, asked_cons_of_ne hd] at h
    rw [replace_cons_of_ne hd, ih h]

theorem count_colon_replace_le (t : Text) :
    (replace t).count (.char ':') ≤ t.count (.char ':') := by
  rw [← count_colon_replace t]
  exact Nat.le_add_right ..

/-- A text that keeps its colons asks for nothing. -/
theorem asksNothing_of_count {t : Text}
    (h : (replace t).count (.char ':') = t.count (.char ':')) : AsksNothing t := by
  have hknown : (asked t).countP (fun code => (ofCode? code).isSome) = 0 := by
    have hcount := count_colon_replace t
    omega
  intro code hcode
  simpa using List.countP_eq_zero.mp hknown code hcode

end ImportStubs.Console.Emoji
