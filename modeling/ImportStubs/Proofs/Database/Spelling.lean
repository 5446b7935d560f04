import ImportStubs.Database
import ImportStubs.Proofs.Except

/-!
# What the values of a descriptor spell

A NID is given by an integer or by a text that spells one, and a truth value by itself, by zero or
one, or by a word. Reading a value succeeds exactly if it spells what is wanted.
-/

namespace ImportStubs

namespace Nid

/-- The number that a value spells, if it does. -/
def number? : Value → Option Int
  | .int n => some n
  | .text t => Numeral.parse? t
  | _ => none

/-- The value spells a number of 32 bits. -/
structure Gives (v : Value) (nid : Int) : Prop where
  number_eq : number? v = some nid
  nonneg : 0 ≤ nid
  le_max : nid ≤ 0xFFFFFFFF

theorem ofInt_eq_ok_iff {what : Text} {n nid : Int} :
    ofInt what n = .ok nid ↔ n = nid ∧ 0 ≤ nid ∧ nid ≤ 0xFFFFFFFF := by
  unfold ofInt limit
  split_ifs with h
  · constructor
    · rintro ⟨⟩
      omega
    · rintro ⟨rfl, -⟩
      rfl
  · constructor
    · rintro ⟨⟩
    · omega

theorem read_eq_ok_iff {what : Text} {v : Value} {nid : Int} :
    read what v = .ok nid ↔ Gives v nid := by
  have hnumber : read what v = (number? v).elim (.error (refuse what v)) (ofInt what) := by
    cases v with
    | text t =>
      rw [read, number?]
      cases Numeral.parse? t <;> rfl
    | _ => rfl
  rw [hnumber]
  cases hv : number? v with
  | none =>
    refine iff_of_false (by simp) fun h => ?_
    rw [h.number_eq] at hv
    cases hv
  | some n =>
    rw [Option.elim_some, ofInt_eq_ok_iff]
    constructor
    · rintro ⟨rfl, hnonneg, hle⟩
      exact ⟨hv, hnonneg, hle⟩
    · intro h
      rw [h.number_eq] at hv
      cases hv
      exact ⟨rfl, h.nonneg, h.le_max⟩

end Nid

namespace Validation

/-- The truth value that zero and one stand for. -/
def truthOfInt? (n : Int) : Option Bool :=
  if n = 0 then some false else if n = 1 then some true else none

/-- The truth value that a value stands for, if it does: itself, a number, or a word. -/
def truth? : Value → Option Bool
  | .bool b => some b
  | .int n => truthOfInt? n
  | .float x => x.toInt?.bind truthOfInt?
  | .text t => truthWord? t
  | _ => none

theorem truthOfInteger_eq_ok_iff {n : Int} {b : Bool} :
    truthOfInteger n = .ok b ↔ truthOfInt? n = some b := by
  by_cases hzero : n = 0
  · subst hzero
    constructor <;> rintro ⟨⟩ <;> rfl
  · by_cases hone : n = 1
    · subst hone
      constructor <;> rintro ⟨⟩ <;> rfl
    · have hnone : truthOfInt? n = none := by simp [truthOfInt?, hzero, hone]
      rw [hnone]
      refine iff_of_false (fun h => ?_) (by simp)
      simp only [truthOfInteger, hzero, hone] at h
      by_cases hword : -(wordLimit : Int) ≤ n ∧ n < wordLimit
      · simp only [hword, and_self, if_true] at h
        cases h
      · simp only [hword, if_false] at h
        cases h

theorem natAbs_lt_of_truth {n : Int} {b : Bool} (h : truthOfInt? n = some b) :
    n.natAbs < wordLimit := by
  unfold truthOfInt? at h
  unfold wordLimit
  split_ifs at h <;> omega

theorem boolean_float (x : Binary64) : boolean (.float x) =
    match x.toInt? with
    | some n => if n.natAbs < wordLimit then truthOfInteger n else .fail .boolType
    | none => .fail .boolType := rfl

theorem boolean_text (t : Text) : boolean (.text t) =
    if Text.hasSurrogate t then .fail .textUnicode
    else match truthWord? t with
      | some b => .ok b
      | none => .fail .boolParsing := rfl

/-- The words for truth values hold no surrogates. -/
theorem truthWord?_eq_none {t : Text} (h : Text.hasSurrogate t = true) : truthWord? t = none := by
  have hother : ∀ s : String, (Text.asciiLower t).is s = false := by
    intro s
    obtain ⟨c, hmem, hc⟩ := List.any_eq_true.mp h
    cases c with
    | char c => cases hc
    | surrogate i =>
      refine beq_false_of_ne fun heq => ?_
      have hlower : CodePoint.surrogate i ∈ Text.asciiLower t :=
        List.mem_map.mpr ⟨.surrogate i, hmem, rfl⟩
      rw [heq] at hlower
      obtain ⟨d, -, hd⟩ := List.mem_map.mp hlower
      cases hd
  simp [truthWord?, hother]

theorem boolean_eq_ok_iff {v : Value} {b : Bool} : boolean v = .ok b ↔ truth? v = some b := by
  cases v with
  | bool a => constructor <;> rintro ⟨⟩ <;> rfl
  | int n => exact truthOfInteger_eq_ok_iff
  | float x =>
    rw [boolean_float, truth?]
    cases x.toInt? with
    | none => exact iff_of_false (by rintro ⟨⟩) (by simp)
    | some n =>
      rw [Option.bind_some]
      by_cases hsmall : n.natAbs < wordLimit
      · simp only [hsmall, if_true]
        exact truthOfInteger_eq_ok_iff
      · simp only [hsmall, if_false]
        exact iff_of_false (by rintro ⟨⟩) fun h => hsmall (natAbs_lt_of_truth h)
  | text t =>
    rw [boolean_text, truth?]
    cases hsurrogate : Text.hasSurrogate t with
    | true =>
      rw [if_pos rfl, truthWord?_eq_none hsurrogate]
      exact iff_of_false (by rintro ⟨⟩) (by simp)
    | false =>
      rw [if_neg (by simp)]
      cases truthWord? t with
      | none => exact iff_of_false (by rintro ⟨⟩) (by simp)
      | some a => constructor <;> rintro ⟨⟩ <;> rfl
  | _ => exact iff_of_false (by rintro ⟨⟩) (by rintro ⟨⟩)

end Validation

end ImportStubs
