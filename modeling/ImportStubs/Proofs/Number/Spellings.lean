import ImportStubs.Number.Numeral
import ImportStubs.Number.Radix
import Mathlib.Data.List.TakeWhile
import Mathlib.Data.Nat.Digits.Lemmas

/-!
# Spellings of numbers

A number is spelled by its decimal digits or, after the mark of another radix, by its digits in
that radix. Underscores may separate the digits, and a sign and blanks may stand around them. The
numerals of ASCII characters that are read as a number are its spellings, and for zero also what
has a minus sign or superfluous zeros.
-/

namespace ImportStubs.Numeral

/-- The character is a digit of the radix and stands for a number below it. The case of a letter
makes no difference. -/
def IsDigit (radix : ℕ) (c : Char) (d : ℕ) : Prop :=
  d < radix ∧ ∃ letters, c = Radix.digit letters d

/-- Digits of a radix with at most one underscore between any two of them, and their values. -/
inductive Run (radix : ℕ) : List Char → List ℕ → Prop
  | last {c : Char} {d : ℕ} (hfirst : IsDigit radix c d) : Run radix [c] [d]
  | next {c : Char} {d : ℕ} {cs : List Char} {ds : List ℕ} (hfirst : IsDigit radix c d)
      (hrest : Run radix cs ds) : Run radix (c :: cs) (d :: ds)
  | spaced {c : Char} {d : ℕ} {cs : List Char} {ds : List ℕ} (hfirst : IsDigit radix c d)
      (hrest : Run radix cs ds) : Run radix (c :: '_' :: cs) (d :: ds)

theorem digitValue?_digit (letters : LetterCase) :
    ∀ d < 36, digitValue? 36 (Radix.digit letters d) = some d := by
  cases letters <;> decide

theorem digitValue?_eq_filter {radix : ℕ} (hradix : radix ≤ 36) (c : Char) :
    digitValue? radix c = (digitValue? 36 c).filter (· < radix) := by
  simp only [digitValue?]
  split_ifs <;> simp only [Option.filter_some, Option.filter_none, decide_eq_true_eq]
  any_goals omega
  all_goals split_ifs; rfl

theorem digitValue?_eq_some_iff {radix : ℕ} (hradix : radix ≤ 36) {c : Char} {d : ℕ} :
    digitValue? radix c = some d ↔ IsDigit radix c d := by
  constructor
  · intro h
    simp only [digitValue?] at h
    split_ifs at h with hdecimal hsmall hupper hsmall hlower hsmall hsmall
    · obtain rfl := Option.some.inj h
      refine ⟨hsmall, .lower, ?_⟩
      rw [Radix.digit, if_pos (by omega), Nat.add_sub_cancel' hdecimal.1, Char.ofNat_toNat]
    · obtain rfl := Option.some.inj h
      refine ⟨hsmall, .upper, ?_⟩
      rw [Radix.digit, if_neg (by omega), Nat.add_sub_cancel' (by omega), Char.ofNat_toNat]
    · obtain rfl := Option.some.inj h
      refine ⟨hsmall, .lower, ?_⟩
      rw [Radix.digit, if_neg (by omega), Nat.add_sub_cancel' (by omega), Char.ofNat_toNat]
    · omega
  · rintro ⟨hd, letters, rfl⟩
    rw [digitValue?_eq_filter hradix, digitValue?_digit letters d (by omega),
      Option.filter_some, if_pos (by simpa using hd)]

/-- No digit is an underscore, a sign or a blank. -/
theorem IsDigit.toNat_mem {radix : ℕ} (hradix : radix ≤ 36) {c : Char} {d : ℕ}
    (h : IsDigit radix c d) : 0x30 ≤ c.toNat ∧ c.toNat < 0x80 ∧ c.toNat ≠ 0x5F := by
  have hvalue := (digitValue?_eq_some_iff hradix).mpr h
  simp only [digitValue?] at hvalue
  split_ifs at hvalue <;> omega

section Runs

variable {radix : ℕ} (hradix : radix ≤ 36) {cs : List Char} {ds : List ℕ}
include hradix

theorem digitRun?_eq_some_iff : digitRun? radix cs = some ds ↔ Run radix cs ds := by
  constructor
  · intro h
    fun_induction digitRun? radix cs generalizing ds with
    | case1 => cases h
    | case2 c =>
      obtain ⟨d, hd, rfl⟩ := Option.map_eq_some_iff.mp h
      exact .last ((digitValue?_eq_some_iff hradix).mp hd)
    | case3 c rest ih =>
      obtain ⟨d, hd, hrest⟩ := Option.bind_eq_some_iff.mp h
      obtain ⟨ds, hds, heq⟩ := Option.bind_eq_some_iff.mp hrest
      cases heq
      exact .spaced ((digitValue?_eq_some_iff hradix).mp hd) (ih hds)
    | case4 c rest _ _ ih =>
      obtain ⟨d, hd, hrest⟩ := Option.bind_eq_some_iff.mp h
      obtain ⟨ds, hds, heq⟩ := Option.bind_eq_some_iff.mp hrest
      cases heq
      exact .next ((digitValue?_eq_some_iff hradix).mp hd) (ih hds)
  · intro h
    induction h with
    | last hfirst =>
      rw [digitRun?, (digitValue?_eq_some_iff hradix).mpr hfirst]
      rfl
    | next hfirst hrest ih =>
      rw [digitRun?, (digitValue?_eq_some_iff hradix).mpr hfirst, ih]
      · rfl
      · rintro rfl
        cases hrest
      · -- The digits that follow do not start with an underscore.
        rintro rest rfl
        cases hrest with
        | last h | next h | spaced h => exact (h.toNat_mem hradix).2.2 rfl
    | spaced hfirst hrest ih =>
      rw [digitRun?, (digitValue?_eq_some_iff hradix).mpr hfirst, ih]
      rfl

end Runs

theorem Run.ne_nil {radix : ℕ} {cs : List Char} {ds : List ℕ} (h : Run radix cs ds) :
    cs ≠ [] ∧ ds ≠ [] := by
  cases h <;> simp

theorem Run.length_le {radix : ℕ} {cs : List Char} {ds : List ℕ} (h : Run radix cs ds) :
    ds.length ≤ cs.length := by
  induction h <;> simp only [List.length_cons] <;> omega

theorem Run.forall_lt {radix : ℕ} {cs : List Char} {ds : List ℕ} (h : Run radix cs ds) :
    ∀ d ∈ ds, d < radix := by
  induction h with
  | last hfirst => exact List.forall_mem_singleton.mpr hfirst.1
  | next hfirst _ ih => exact List.forall_mem_cons.mpr ⟨hfirst.1, ih⟩
  | spaced hfirst _ ih => exact List.forall_mem_cons.mpr ⟨hfirst.1, ih⟩

/-- The marks of the radices other than ten. -/
def marks : List (Char × ℕ) := [('x', 16), ('X', 16), ('o', 8), ('O', 8), ('b', 2), ('B', 2)]

/-- What spells a number: its decimal digits without superfluous zeros, or the mark of a radix and
digits with any zeros in front. -/
inductive Magnitude : List Char → ℕ → Prop
  | decimal {cs : List Char} {ds : List ℕ} (hrun : Run 10 cs ds)
      (hzero : ds.head? = some 0 → ds = [0]) : Magnitude cs (Nat.ofDigits 10 ds.reverse)
  | marked {mark : Char} {radix : ℕ} {gap cs : List Char} {ds : List ℕ}
      (hmark : (mark, radix) ∈ marks) (hgap : gap = [] ∨ gap = ['_']) (hrun : Run radix cs ds) :
      Magnitude ('0' :: mark :: (gap ++ cs)) (Nat.ofDigits radix ds.reverse)

/-- One or more decimal zeros. -/
def Zeros (cs : List Char) : Prop := ∃ ds, Run 10 cs ds ∧ ∀ d ∈ ds, d = 0

theorem ofDigits_eq (radix : ℕ) (ds : List ℕ) :
    ofDigits radix ds = Nat.ofDigits radix ds.reverse := by
  rw [Nat.ofDigits_eq_foldr, List.foldr_reverse, ofDigits]
  simp only [Nat.cast_id, Nat.add_comm, Nat.mul_comm]

theorem ofDigits_eq_zero_iff {ds : List ℕ} : ofDigits 10 ds = 0 ↔ ∀ d ∈ ds, d = 0 := by
  rw [ofDigits_eq]
  constructor
  · intro h d hd
    exact Nat.digits_zero_of_eq_zero (by decide) h d (List.mem_reverse.mpr hd)
  · intro h
    rw [List.eq_replicate_iff.mpr ⟨rfl, h⟩, List.reverse_replicate, Nat.ofDigits_replicate_zero]

theorem radixOfMark?_eq_some_iff {mark : Char} {radix : ℕ} :
    radixOfMark? mark = some radix ↔ (mark, radix) ∈ marks := by
  unfold radixOfMark? marks
  split_ifs with hhex hoct hbin
  · rcases hhex with rfl | rfl <;> simp [eq_comm]
  · rcases hoct with rfl | rfl <;> simp [eq_comm]
  · rcases hbin with rfl | rfl <;> simp [eq_comm]
  · simp only [not_or] at hhex hoct hbin
    simp [hhex, hoct, hbin]

theorem radix_le_of_mem_marks {mark : Char} {radix : ℕ} (h : (mark, radix) ∈ marks) :
    radix ≤ 16 := by
  have hall : ∀ m ∈ marks, m.2 ≤ 16 := by decide
  exact hall _ h

theorem spells_of_plainMagnitude? {cs : List Char} {n : ℕ} (h : plainMagnitude? cs = some n) :
    Magnitude cs n ∨ n = 0 ∧ Zeros cs := by
  obtain ⟨ds, hdigits, hvalue⟩ := Option.bind_eq_some_iff.mp h
  have hrun := (digitRun?_eq_some_iff (by decide)).mp (Option.filter_eq_some_iff.mp hdigits).1
  split_ifs at hvalue with hzeros
  obtain rfl := Option.some.inj hvalue
  by_cases hhead : ds.head? = some 0
  · have hvalue : ofDigits 10 ds = 0 := not_not.mp fun hne => hzeros ⟨hhead, hne⟩
    exact .inr ⟨hvalue, ds, hrun, ofDigits_eq_zero_iff.mp hvalue⟩
  · rw [ofDigits_eq]
    exact .inl (.decimal hrun fun h => absurd h hhead)

theorem spells_of_magnitude? {cs : List Char} {n : ℕ} (h : magnitude? cs = some n) :
    Magnitude cs n ∨ n = 0 ∧ Zeros cs := by
  unfold magnitude? at h
  split at h
  next mark rest =>
    split at h
    next radix hradix =>
      have hmark := radixOfMark?_eq_some_iff.mp hradix
      obtain ⟨ds, hdigits, rfl⟩ := Option.map_eq_some_iff.mp h
      have hle := radix_le_of_mem_marks hmark
      have hrun := (digitRun?_eq_some_iff (by omega)).mp hdigits
      rw [ofDigits_eq]
      unfold dropUnderscore at hrun
      split at hrun
      · exact .inl (.marked hmark (.inr rfl) hrun)
      · exact .inl (.marked hmark (.inl rfl) hrun)
    · exact spells_of_plainMagnitude? h
  · exact spells_of_plainMagnitude? h

/-- Decimal digits are not taken for a mark. -/
theorem Run.magnitude?_eq {cs : List Char} {ds : List ℕ} (h : Run 10 cs ds) :
    magnitude? cs = plainMagnitude? cs := by
  have hdigits : ∀ letters, ∀ d < 10, radixOfMark? (Radix.digit letters d) = none := by
    intro letters
    cases letters <;> decide
  unfold magnitude?
  split
  next mark rest =>
    have hmark : radixOfMark? mark = none := by
      have hsecond : ∀ {cs : List Char} {ds : List ℕ}, Run 10 (mark :: cs) ds →
          radixOfMark? mark = none := by
        rintro cs ds (⟨hd, letters, rfl⟩ | ⟨⟨hd, letters, rfl⟩, -⟩ | ⟨⟨hd, letters, rfl⟩, -⟩) <;>
          exact hdigits letters _ hd
      cases h with
      | next _ hrest => exact hsecond hrest
      | spaced => decide
    rw [hmark]
  · rfl

theorem plainMagnitude?_of_run {cs : List Char} {ds : List ℕ} (hrun : Run 10 cs ds)
    (hlength : ds.length ≤ decimalLimit) (hzero : ds.head? = some 0 → ofDigits 10 ds = 0) :
    plainMagnitude? cs = some (ofDigits 10 ds) := by
  have hdigits : decimalDigits? cs = some ds := by
    rw [decimalDigits?, (digitRun?_eq_some_iff (by decide)).mpr hrun, Option.filter_some,
      if_pos (by simpa using hlength)]
  rw [plainMagnitude?, hdigits, Option.bind_some, if_neg fun hand => hand.2 (hzero hand.1)]

theorem Zeros.magnitude?_eq {cs : List Char} (h : Zeros cs) (hlength : cs.length ≤ decimalLimit) :
    magnitude? cs = some 0 := by
  obtain ⟨ds, hrun, hzeros⟩ := h
  have hvalue := ofDigits_eq_zero_iff.mpr hzeros
  have hle := hrun.length_le
  rw [hrun.magnitude?_eq, plainMagnitude?_of_run hrun (by omega) fun _ => hvalue, hvalue]

/-- A number without superfluous zeros has no more digits than its size asks for. -/
theorem length_le_of_ofDigits_lt {ds : List ℕ} (hne : ds ≠ [])
    (hzero : ds.head? = some 0 → ds = [0]) {limit : ℕ} (hlimit : 0 < limit)
    (hlt : Nat.ofDigits 10 ds.reverse < 10 ^ limit) : ds.length ≤ limit := by
  by_cases hhead : ds.head? = some 0
  · rw [hzero hhead]
    exact hlimit
  · have hlast : ds.reverse.getLast (by simpa using hne) ≠ 0 := by
      rw [List.getLast_reverse]
      intro h
      rw [List.head?_eq_some_head hne, h] at hhead
      exact hhead rfl
    have hle : 10 ^ ds.reverse.length ≤ 10 * Nat.ofDigits 10 ds.reverse :=
      Nat.pow_length_le_mul_ofDigits _ hlast
    have hpow : 10 ^ ds.length < 10 ^ (limit + 1) := by
      rw [List.length_reverse] at hle
      rw [Nat.pow_succ]
      omega
    exact Nat.lt_succ_iff.mp ((Nat.pow_lt_pow_iff_right (by decide)).mp hpow)

/-- Digits do not start with an underscore. -/
theorem Run.dropUnderscore_eq {radix : ℕ} (hradix : radix ≤ 36) {cs : List Char} {ds : List ℕ}
    (h : Run radix cs ds) : dropUnderscore cs = cs := by
  unfold dropUnderscore
  split
  · cases h with
    | last h | next h | spaced h => exact absurd rfl (h.toNat_mem hradix).2.2
  · rfl

theorem Magnitude.magnitude?_eq {cs : List Char} {n : ℕ} (h : Magnitude cs n)
    (hlt : n < 10 ^ decimalLimit) : magnitude? cs = some n := by
  cases h with
  | @decimal cs ds hrun hzero =>
    have hlength := length_le_of_ofDigits_lt hrun.ne_nil.2 hzero (by decide) hlt
    have hvalue : ds.head? = some 0 → ofDigits 10 ds = 0 := by
      intro hhead
      rw [hzero hhead]
      rfl
    rw [hrun.magnitude?_eq, plainMagnitude?_of_run hrun hlength hvalue, ofDigits_eq]
  | @marked mark radix gap cs ds hmark hgap hrun =>
    have hle := radix_le_of_mem_marks hmark
    have hdrop : dropUnderscore (gap ++ cs) = cs := by
      rcases hgap with rfl | rfl
      · exact hrun.dropUnderscore_eq (by omega)
      · rfl
    rw [magnitude?, radixOfMark?_eq_some_iff.mpr hmark]
    dsimp only
    rw [hdrop, (digitRun?_eq_some_iff (by omega)).mpr hrun, Option.map_some, ofDigits_eq]

/-- A numeral with a sign in front and blanks around both. -/
inductive Framed (sign : List Char) : Text → List Char → Prop
  | intro {before after : Text} {cs : List Char} (hbefore : ∀ c ∈ before, Text.isBlank c = true)
      (hafter : ∀ c ∈ after, Text.isBlank c = true) :
      Framed sign (before ++ Text.ofChars (sign ++ cs) ++ after) cs

theorem Framed.length_le {sign cs : List Char} {t : Text} (h : Framed sign t cs) :
    cs.length ≤ t.length := by
  cases h with
  | intro =>
    simp only [List.length_append, Text.ofChars, List.length_map]
    omega

/-- The text is a spelling of the number. -/
def Spells (t : Text) (n : ℕ) : Prop :=
  ∃ sign ∈ [[], ['+']], ∃ cs, Framed sign t cs ∧ Magnitude cs n

/-- The text spells zero, or would but for a minus sign or superfluous zeros. -/
def SpellsZero (t : Text) : Prop :=
  ∃ sign ∈ [[], ['+'], ['-']], ∃ cs, Framed sign t cs ∧ (Magnitude cs 0 ∨ Zeros cs)

/-- What digits and marks consist of: neither blanks nor signs, and nothing beyond ASCII. -/
def IsInk (c : Char) : Prop := 0x30 ≤ c.toNat ∧ c.toNat < 0x80

theorem Run.isInk {radix : ℕ} (hradix : radix ≤ 36) {cs : List Char} {ds : List ℕ}
    (h : Run radix cs ds) : ∀ c ∈ cs, IsInk c := by
  have hdigit : ∀ {c : Char} {d : ℕ}, IsDigit radix c d → IsInk c :=
    fun h => ⟨(h.toNat_mem hradix).1, (h.toNat_mem hradix).2.1⟩
  have hunderscore : IsInk '_' := ⟨by decide, by decide⟩
  induction h with
  | last hfirst => exact List.forall_mem_singleton.mpr (hdigit hfirst)
  | next hfirst _ ih => exact List.forall_mem_cons.mpr ⟨hdigit hfirst, ih⟩
  | spaced hfirst _ ih =>
    exact List.forall_mem_cons.mpr ⟨hdigit hfirst, List.forall_mem_cons.mpr ⟨hunderscore, ih⟩⟩

theorem Magnitude.isInk {cs : List Char} {n : ℕ} (h : Magnitude cs n) : ∀ c ∈ cs, IsInk c := by
  have hmarks : ∀ m ∈ marks, IsInk m.1 := by
    unfold IsInk
    decide
  have hzero : IsInk '0' := ⟨by decide, by decide⟩
  have hunderscore : IsInk '_' := ⟨by decide, by decide⟩
  cases h with
  | decimal hrun => exact hrun.isInk (by decide)
  | marked hmark hgap hrun =>
    have hle := radix_le_of_mem_marks hmark
    have hrest := hrun.isInk (by omega)
    refine List.forall_mem_cons.mpr ⟨hzero, List.forall_mem_cons.mpr ⟨hmarks _ hmark, ?_⟩⟩
    rcases hgap with rfl | rfl
    · exact hrest
    · exact List.forall_mem_cons.mpr ⟨hunderscore, hrest⟩

theorem Magnitude.ne_nil {cs : List Char} {n : ℕ} (h : Magnitude cs n) : cs ≠ [] := by
  cases h with
  | decimal hrun => exact hrun.ne_nil.1
  | marked => exact List.cons_ne_nil _ _

theorem isBlank_iff {c : Char} :
    isBlank c = true ↔ c.toNat = 0x20 ∨ 0x9 ≤ c.toNat ∧ c.toNat ≤ 0xD := by
  have hspace : c = ' ' ↔ c.toNat = 0x20 := Char.toNat_inj.symm
  simp [isBlank, hspace]

/-- Below U+0080 the same characters are blanks of a text, and no surrogate is one. -/
theorem textIsBlank_iff {c : CodePoint}
    (h : c.value < 0x80 ∨ 0xD800 ≤ c.value ∧ c.value < 0xE000) :
    Text.isBlank c = true ↔ c.value = 0x20 ∨ 0x9 ≤ c.value ∧ c.value ≤ 0xD := by
  simp only [Text.isBlank, Bool.or_eq_true, Bool.and_eq_true, decide_eq_true_eq, beq_iff_eq]
  omega

theorem isBlank_plain {c : CodePoint} (h : Text.isBlank c = true) : isBlank (plain c) = true := by
  cases c with
  | surrogate i =>
    have hi := i.isLt
    have hvalue : (CodePoint.surrogate i).value = 0xD800 + i := rfl
    rw [textIsBlank_iff (by omega)] at h
    omega
  | char c =>
    have hvalue : (CodePoint.char c).value = c.toNat := rfl
    dsimp only [plain]
    split_ifs with hascii
    · rw [textIsBlank_iff (by omega)] at h
      exact isBlank_iff.mpr h
    · rfl

theorem map_plain_ofChars {cs : List Char} (h : ∀ c ∈ cs, c.toNat < 0x80) :
    (Text.ofChars cs).map plain = cs := by
  rw [Text.ofChars, List.map_map]
  exact (List.map_congr_left fun c hc => if_pos (h c hc)).trans (List.map_id cs)

theorem dropWhile_isBlank {before cs : List Char} (hbefore : ∀ c ∈ before, isBlank c = true)
    (hcs : ∀ c ∈ cs.head?, isBlank c = false) : (before ++ cs).dropWhile isBlank = cs := by
  rw [List.dropWhile_append_of_pos hbefore]
  cases cs with
  | nil => rfl
  | cons c cs => exact List.dropWhile_cons_of_neg (by simp [hcs c rfl])

theorem trim_append {before cs after : List Char} (hbefore : ∀ c ∈ before, isBlank c = true)
    (hafter : ∀ c ∈ after, isBlank c = true) (hne : cs ≠ []) (hcs : ∀ c ∈ cs, isBlank c = false) :
    trim (before ++ cs ++ after) = cs := by
  have hfront : (before ++ cs ++ after).dropWhile isBlank = cs ++ after := by
    rw [List.append_assoc]
    apply dropWhile_isBlank hbefore
    rw [List.head?_append_of_ne_nil _ hne]
    exact fun c hc => hcs c (List.mem_of_mem_head? hc)
  have hback : (cs ++ after).reverse.dropWhile isBlank = cs.reverse := by
    rw [List.reverse_append]
    apply dropWhile_isBlank fun c hc => hafter c (List.mem_reverse.mp hc)
    exact fun c hc => hcs c (List.mem_reverse.mp (List.mem_of_mem_head? hc))
  rw [trim, hfront, hback, List.reverse_reverse]

theorem exists_trim (cs : List Char) : ∃ before after, cs = before ++ trim cs ++ after ∧
    (∀ c ∈ before, isBlank c = true) ∧ ∀ c ∈ after, isBlank c = true := by
  have hblank : ∀ xs : List Char, ∀ c ∈ xs.takeWhile isBlank, isBlank c = true :=
    fun xs c hc => List.mem_takeWhile_imp hc
  refine ⟨cs.takeWhile isBlank, ((cs.dropWhile isBlank).reverse.takeWhile isBlank).reverse, ?_,
    hblank cs, fun c hc => hblank _ c (List.mem_reverse.mp hc)⟩
  rw [trim, List.append_assoc, ← List.reverse_append, List.takeWhile_append_dropWhile,
    List.reverse_reverse, List.takeWhile_append_dropWhile]

/-- What is read of a framed numeral is the numeral with its sign. -/
theorem Framed.parse?_eq {sign cs : List Char} {t : Text} (h : Framed sign t cs)
    (hsign : sign ∈ [[], ['+'], ['-']]) (hne : cs ≠ []) (hcs : ∀ c ∈ cs, IsInk c) :
    parse? t = signed? magnitude? (sign ++ cs) := by
  obtain ⟨hbefore, hafter⟩ := h
  have hink : ∀ c ∈ sign ++ cs, 0x21 ≤ c.toNat ∧ c.toNat < 0x80 := by
    refine List.forall_mem_append.mpr ⟨fun c hc => ?_, fun c hc => ?_⟩
    · have hc' : c = '+' ∨ c = '-' := by
        simp only [List.mem_cons, List.not_mem_nil, or_false] at hsign
        rcases hsign with rfl | rfl | rfl
        · exact absurd hc List.not_mem_nil
        · exact .inl (List.mem_singleton.mp hc)
        · exact .inr (List.mem_singleton.mp hc)
      rcases hc' with rfl | rfl <;> decide
    · have hbounds := hcs c hc
      exact ⟨by have := hbounds.1; omega, hbounds.2⟩
  have hmap : ∀ {blanks : Text}, (∀ c ∈ blanks, Text.isBlank c = true) →
      ∀ c ∈ blanks.map plain, isBlank c = true := by
    intro blanks hblanks
    rw [List.forall_mem_map]
    exact fun c hc => isBlank_plain (hblanks c hc)
  rw [parse?, List.map_append, List.map_append, map_plain_ofChars fun c hc => (hink c hc).2,
    trim_append (hmap hbefore) (hmap hafter) (by simp [hne])]
  intro c hc
  rw [← Bool.not_eq_true, isBlank_iff]
  have := hink c hc
  omega

/-- A numeral without a sign. -/
theorem signed?_of_isInk {magnitude : List Char → Option ℕ} {cs : List Char}
    (h : ∀ c ∈ cs, IsInk c) : signed? magnitude cs = (magnitude cs).map Int.ofNat := by
  unfold signed?
  split
  · exact absurd (h '+' (by simp)).1 (by decide)
  · exact absurd (h '-' (by simp)).1 (by decide)
  · rfl

theorem parse?_of_spells {t : Text} {n : ℕ} (h : Spells t n) (hlt : n < 10 ^ decimalLimit) :
    parse? t = some n := by
  obtain ⟨sign, hsign, cs, hframed, hmagnitude⟩ := h
  have hvalue := hmagnitude.magnitude?_eq hlt
  have hsigns : sign ∈ [[], ['+'], ['-']] := List.mem_append_left [['-']] hsign
  rw [hframed.parse?_eq hsigns hmagnitude.ne_nil hmagnitude.isInk]
  simp only [List.mem_cons, List.not_mem_nil, or_false] at hsign
  rcases hsign with rfl | rfl
  · rw [List.nil_append, signed?_of_isInk hmagnitude.isInk, hvalue]
    rfl
  · rw [List.singleton_append, signed?, hvalue]
    rfl

theorem parse?_of_spellsZero {t : Text} (h : SpellsZero t) (hlength : t.length ≤ decimalLimit) :
    parse? t = some 0 := by
  obtain ⟨sign, hsign, cs, hframed, hspelled⟩ := h
  have hshort : cs.length ≤ decimalLimit := hframed.length_le.trans hlength
  have hfound : cs ≠ [] ∧ (∀ c ∈ cs, IsInk c) ∧ magnitude? cs = some 0 := by
    rcases hspelled with hmagnitude | hzeros
    · exact ⟨hmagnitude.ne_nil, hmagnitude.isInk,
        hmagnitude.magnitude?_eq (Nat.pow_pos (by decide))⟩
    · obtain ⟨ds, hrun, -⟩ := id hzeros
      exact ⟨hrun.ne_nil.1, hrun.isInk (by decide), hzeros.magnitude?_eq hshort⟩
  obtain ⟨hne, hink, hvalue⟩ := hfound
  rw [hframed.parse?_eq hsign hne hink]
  simp only [List.mem_cons, List.not_mem_nil, or_false] at hsign
  rcases hsign with rfl | rfl | rfl
  · rw [List.nil_append, signed?_of_isInk hink, hvalue]
    rfl
  · rw [List.singleton_append, signed?, hvalue]
    rfl
  · rw [List.singleton_append, signed?, hvalue]
    rfl

/-- All of the text is ASCII. -/
def IsAscii (t : Text) : Prop := ∀ c ∈ t, c.value < 0x80

theorem IsAscii.exists_ofChars {t : Text} (h : IsAscii t) :
    ∃ cs : List Char, t = Text.ofChars cs ∧ t.map plain = cs := by
  have hchars : ∃ cs : List Char, t = Text.ofChars cs := by
    induction t with
    | nil => exact ⟨[], rfl⟩
    | cons c t ih =>
      obtain ⟨hc, ht⟩ := List.forall_mem_cons.mp h
      obtain ⟨cs, rfl⟩ := ih ht
      cases c with
      | char c => exact ⟨c :: cs, rfl⟩
      | surrogate i =>
        have hvalue : (CodePoint.surrogate i).value = 0xD800 + i := rfl
        omega
  obtain ⟨cs, rfl⟩ := hchars
  exact ⟨cs, rfl, map_plain_ofChars fun c hc => h (.char c) (List.mem_map_of_mem hc)⟩

/-- An ASCII text that is read as a number is a framed numeral; only a minus sign changes its
number. -/
theorem exists_framed_of_parse? {t : Text} (hascii : IsAscii t) {z : Int} (h : parse? t = some z) :
    ∃ sign ∈ [[], ['+'], ['-']], ∃ cs n, Framed sign t cs ∧ magnitude? cs = some n ∧
      z = if sign = ['-'] then -(n : Int) else n := by
  obtain ⟨cs, rfl, hplain⟩ := hascii.exists_ofChars
  rw [parse?, hplain] at h
  obtain ⟨before, after, hsplit, hbefore, hafter⟩ := exists_trim cs
  have hframed : ∀ {sign rest : List Char}, trim cs = sign ++ rest →
      Framed sign (Text.ofChars cs) rest := by
    intro sign rest htrim
    have hblank : ∀ {blanks : List Char}, (∀ c ∈ blanks, c ∈ cs) →
        (∀ c ∈ blanks, isBlank c = true) → ∀ c ∈ Text.ofChars blanks, Text.isBlank c = true := by
      intro blanks hmem hblanks
      rw [Text.ofChars, List.forall_mem_map]
      intro c hc
      exact (textIsBlank_iff (.inl (hascii _ (List.mem_map_of_mem (hmem c hc))))).mpr
        (isBlank_iff.mp (hblanks c hc))
    have hshape : Text.ofChars cs =
        Text.ofChars before ++ Text.ofChars (sign ++ rest) ++ Text.ofChars after := by
      rw [← htrim]
      conv_lhs => rw [hsplit]
      simp only [Text.ofChars, List.map_append]
    rw [hshape]
    refine .intro (hblank (fun c hc => ?_) hbefore) (hblank (fun c hc => ?_) hafter)
    · rw [hsplit]
      simp [hc]
    · rw [hsplit]
      simp [hc]
  unfold signed? at h
  split at h
  next rest htrim =>
    obtain ⟨n, hn, rfl⟩ := Option.map_eq_some_iff.mp h
    exact ⟨['+'], by decide, rest, n, hframed htrim, hn, rfl⟩
  next rest htrim =>
    obtain ⟨n, hn, rfl⟩ := Option.map_eq_some_iff.mp h
    exact ⟨['-'], by decide, rest, n, hframed htrim, hn, rfl⟩
  · obtain ⟨n, hn, rfl⟩ := Option.map_eq_some_iff.mp h
    exact ⟨[], by decide, trim cs, n, hframed rfl, hn, rfl⟩

theorem spells_of_parse? {t : Text} (hascii : IsAscii t) {n : ℕ} (h : parse? t = some n) :
    Spells t n ∨ n = 0 ∧ SpellsZero t := by
  obtain ⟨sign, hsign, cs, m, hframed, hvalue, hn⟩ := exists_framed_of_parse? hascii h
  have hspelled := spells_of_magnitude? hvalue
  by_cases hminus : sign = ['-']
  · rw [if_pos hminus] at hn
    obtain ⟨rfl, rfl⟩ : n = 0 ∧ m = 0 := by omega
    exact .inr ⟨rfl, sign, hsign, cs, hframed, hspelled.imp_right And.right⟩
  · rw [if_neg hminus] at hn
    obtain rfl : n = m := by omega
    rcases hspelled with hmagnitude | ⟨rfl, hzeros⟩
    · have hproper : sign ∈ [[], ['+']] := by
        simpa [hminus] using hsign
      exact .inl ⟨sign, hproper, cs, hframed, hmagnitude⟩
    · exact .inr ⟨rfl, sign, hsign, cs, hframed, .inr hzeros⟩

theorem Run.ofDigits_lt {radix : ℕ} (hradix : radix ≤ 16) {cs : List Char} {ds : List ℕ}
    (h : Run radix cs ds) (hpos : 1 < radix) : Nat.ofDigits radix ds.reverse < 16 ^ cs.length :=
  calc Nat.ofDigits radix ds.reverse
    _ < radix ^ ds.reverse.length :=
      Nat.ofDigits_lt_base_pow_length hpos fun d hd => h.forall_lt d (List.mem_reverse.mp hd)
    _ = radix ^ ds.length := by rw [List.length_reverse]
    _ ≤ 16 ^ ds.length := Nat.pow_le_pow_left hradix _
    _ ≤ 16 ^ cs.length := Nat.pow_le_pow_right (by decide) h.length_le

theorem lt_of_magnitude? {cs : List Char} {n : ℕ} (h : magnitude? cs = some n) :
    n < 16 ^ cs.length := by
  rcases spells_of_magnitude? h with hmagnitude | ⟨rfl, -⟩
  · cases hmagnitude with
    | decimal hrun => exact hrun.ofDigits_lt (by decide) (by decide)
    | marked hmark hgap hrun =>
      have hradices : ∀ m ∈ marks, 1 < m.2 := by decide
      refine (hrun.ofDigits_lt (radix_le_of_mem_marks hmark) (hradices _ hmark)).trans_le ?_
      apply Nat.pow_le_pow_right (by decide)
      simp only [List.length_cons, List.length_append]
      omega
  · exact Nat.pow_pos (by decide)

/-- Each character adds at most one hexadecimal digit. -/
theorem natAbs_lt_of_parse? {t : Text} (hascii : IsAscii t) {z : Int} (h : parse? t = some z) :
    z.natAbs < 16 ^ t.length := by
  obtain ⟨sign, -, cs, n, hframed, hvalue, rfl⟩ := exists_framed_of_parse? hascii h
  have hlt := lt_of_magnitude? hvalue
  have hpow : 16 ^ cs.length ≤ 16 ^ t.length :=
    Nat.pow_le_pow_right (by decide) hframed.length_le
  split_ifs <;> omega

end ImportStubs.Numeral
