import ImportStubs.Proofs.Json.Escapes
import ImportStubs.Proofs.Json.Readers
import ImportStubs.Proofs.Members
import ImportStubs.Proofs.Number.LongNumeral
import Mathlib.Data.List.TakeWhile

/-!
# What is read from a JSON document

Every value that is read is regular: its integers have no more digits than can be shown, its texts
have no surrogate pair left, and no two members of a table share a name.
-/

namespace ImportStubs.Json

/-- Values as reading gives them. Numbers with a fraction are among them if they are allowed. -/
inductive Regular (fractions : Prop) : Value → Prop
  | null : Regular fractions .null
  | bool (b : Bool) : Regular fractions (.bool b)
  | int {n : Int} : (Value.int n).isShowable → Regular fractions (.int n)
  | float (x : Binary64) : fractions → Regular fractions (.float x)
  | text {t : Text} : joinPairs t = t → Regular fractions (.text t)
  | list {items : List Value} : (∀ v ∈ items, Regular fractions v) → Regular fractions (.list items)
  | table {members : List (Text × Value)} : (members.map Prod.fst).Nodup →
      (∀ m ∈ members, joinPairs m.1 = m.1) → (∀ m ∈ members, Regular fractions m.2) →
      Regular fractions (.table members)

theorem foldl_digits_lt {digits : List Char} (hdigits : ∀ c ∈ digits, isDigit c) (n : ℕ) :
    digits.foldl (fun n c => n * 10 + (c.toNat - 0x30)) n < (n + 1) * 10 ^ digits.length := by
  induction digits generalizing n with
  | nil => simp
  | cons c digits ih =>
    obtain ⟨hc, hdigits⟩ := List.forall_mem_cons.mp hdigits
    have hle : c.toNat ≤ 0x39 := by
      simp only [isDigit, Bool.and_eq_true, decide_eq_true_eq] at hc
      exact hc.2
    calc digits.foldl (fun n c => n * 10 + (c.toNat - 0x30)) (n * 10 + (c.toNat - 0x30))
        < (n * 10 + (c.toNat - 0x30) + 1) * 10 ^ digits.length := ih hdigits _
      _ ≤ (n + 1) * 10 * 10 ^ digits.length := Nat.mul_le_mul_right _ (by omega)
      _ = (n + 1) * 10 ^ (c :: digits).length := by
        rw [List.length_cons, Nat.pow_succ, Nat.mul_assoc, Nat.mul_comm 10]

theorem natOf_lt {digits : List Char} (hdigits : ∀ c ∈ digits, isDigit c) :
    natOf digits < 10 ^ digits.length := by
  simpa [natOf] using foldl_digits_lt hdigits 0

theorem isDigit_of_integerPart {cs whole rest : List Char}
    (h : integerPart cs = some (whole, rest)) : ∀ c ∈ whole, isDigit c := by
  unfold integerPart at h
  split at h
  · cases h
    simp [isDigit]
  · split at h
    · cases h
      exact fun c hc => List.mem_takeWhile_imp hc
    · cases h
  · cases h

theorem regular_readMagnitude {negative : Bool} {cs rest : List Char} {v : Value}
    (h : readMagnitude negative cs = .ok (v, rest)) : Regular True v := by
  unfold readMagnitude at h
  split at h
  · cases h
  next whole after hwhole =>
    dsimp only at h
    by_cases hinteger : (fractionPart after).1.isEmpty ∧
        (exponentPart (fractionPart after).2).1.isNone
    · rw [if_pos hinteger] at h
      by_cases hshort : whole.length ≤ Numeral.decimalLimit
      · rw [if_pos hshort] at h
        obtain ⟨rfl, -⟩ := Prod.mk.inj (Except.ok.inj h)
        refine .int (Numeral.isShowable_of_natAbs_lt ?_ hshort)
        have hsize : natOf whole < 10 ^ whole.length := natOf_lt (isDigit_of_integerPart hwhole)
        cases negative <;> simpa using hsize
      · rw [if_neg hshort] at h
        cases h
    · rw [if_neg hinteger] at h
      obtain ⟨rfl, -⟩ := Prod.mk.inj (Except.ok.inj h)
      exact .float _ trivial

theorem regular_readNumber {cs rest : List Char} {v : Value}
    (h : readNumber cs = .ok (v, rest)) : Regular True v := by
  unfold readNumber at h
  split at h
  · cases h
    exact .float _ trivial
  · exact regular_readMagnitude h
  · exact regular_readMagnitude h

/-- Members of a table as reading sets them. -/
structure RegularMembers (members : List (Text × Value)) : Prop where
  nodup : (members.map Prod.fst).Nodup
  joined : ∀ m ∈ members, joinPairs m.1 = m.1
  values : ∀ m ∈ members, Regular True m.2

theorem regularMembers_nil : RegularMembers [] := ⟨List.nodup_nil, by simp, by simp⟩

theorem RegularMembers.setMember {members : List (Text × Value)} (h : RegularMembers members)
    (name : Text) {v : Value} (hv : Regular True v) :
    RegularMembers (Value.setMember (joinPairs name) v members) where
  nodup := Value.nodup_setMember h.nodup
  joined m hm := by
    rcases Value.mem_setMember hm with hold | rfl
    · exact h.joined m hold
    · exact joinPairs_joinPairs name
  values m hm := by
    rcases Value.mem_setMember hm with hold | rfl
    · exact h.values m hold
    · exact hv

theorem RegularMembers.table {members : List (Text × Value)} (h : RegularMembers members) :
    Regular True (.table members) := .table h.nodup h.joined h.values

/-- What the three readers give at the start of a text is regular. -/
structure ReadsRegular (cs : List Char) : Prop where
  value : ∀ {v rest}, readValue cs = .ok (v, rest) → Regular True v
  items : ∀ {items rest}, readItems cs = .ok (items, rest) → ∀ v ∈ items, Regular True v
  members : ∀ {before members rest}, RegularMembers before →
    readMembers before cs = .ok (members, rest) → RegularMembers members

section

variable {cs : List Char}
  (hlater : ∀ later : List Char, later.length < cs.length → ReadsRegular later)
include hlater

theorem regular_readValue {v : Value} {rest : Rest cs} (h : readValue cs = .ok (v, rest)) :
    Regular True v := by
  unfold readValue at h
  split at h
  · split at h
    · cases h
      exact .text (joinPairs_joinPairs _)
    · cases h
  next start =>
    have hnext := hlater (skipBlanks start) (Nat.lt_succ_of_le (length_skipBlanks_le start))
    split at h
    · cases h
      exact .list (by simp)
    · split at h
      · cases h
      next hitems =>
        cases h
        exact .list (hnext.items hitems)
  next start =>
    have hnext := hlater (skipBlanks start) (Nat.lt_succ_of_le (length_skipBlanks_le start))
    split at h
    · cases h
      exact regularMembers_nil.table
    · split at h
      · cases h
      next hmembers =>
        cases h
        exact (hnext.members regularMembers_nil hmembers).table
  · cases h
    exact .null
  · cases h
    exact .bool true
  · cases h
    exact .bool false
  · cases h
    exact .float _ trivial
  · cases h
    exact .float _ trivial
  · split at h
    · cases h
    next hnumber =>
      cases h
      exact regular_readNumber hnumber

theorem regular_readItems {items : List Value} {rest : Rest cs}
    (h : readItems cs = .ok (items, rest)) : ∀ v ∈ items, Regular True v := by
  have hread := bare_of_ok h
  rw [bare_readItems] at hread
  obtain ⟨⟨v, after⟩, hvalue, hafter⟩ := bind_eq_ok_iff.mp hread
  obtain ⟨hlt, hvalue⟩ := bare_eq_ok_iff.mp hvalue
  have hv : Regular True v := regular_readValue hlater hvalue
  unfold itemsAfter at hafter
  split at hafter
  · cases hafter
    simp [hv]
  next next hcomma =>
    obtain ⟨⟨items, last⟩, hitems, heq⟩ := map_eq_ok_iff.mp hafter
    cases heq
    obtain ⟨_, hitems⟩ := bare_eq_ok_iff.mp hitems
    exact List.forall_mem_cons.mpr ⟨hv, (hlater _ (length_next_lt hlt hcomma)).items hitems⟩
  · cases hafter

theorem regularMembers_readMembers {before members : List (Text × Value)} {rest : Rest cs}
    (hbefore : RegularMembers before) (h : readMembers before cs = .ok (members, rest)) :
    RegularMembers members := by
  obtain ⟨cs, rfl⟩ := exists_cons_of_readMembers (h.trans_ne (by simp))
  have hread := bare_of_ok h
  rw [bare_readMembers] at hread
  obtain ⟨⟨⟨name, v⟩, after⟩, hmember, hafter⟩ := bind_eq_ok_iff.mp hread
  have hset : RegularMembers (Value.setMember name v before) := by
    obtain ⟨t, afterName, afterColon, hname, rfl, hcolon, hvalue⟩ :=
      readMember_eq_ok_iff.mp hmember
    obtain ⟨_, hvalue⟩ := bare_eq_ok_iff.mp hvalue
    have hshorter := length_memberValue_lt hname hcolon
    exact hbefore.setMember t ((hlater _ hshorter).value hvalue)
  unfold membersAfter at hafter
  split at hafter
  · cases hafter
    exact hset
  next next hcomma =>
    have hshorter := length_next_lt (length_lt_of_readMember hmember) hcomma
    obtain ⟨_, hmembers⟩ := bare_eq_ok_iff.mp hafter
    exact (hlater _ hshorter).members hset hmembers
  · cases hafter

end

theorem readsRegular (cs : List Char) : ReadsRegular cs := by
  induction cs using (measure fun cs : List Char => cs.length).wf.induction with
  | _ cs hlater =>
    exact ⟨regular_readValue hlater, regular_readItems hlater,
      regularMembers_readMembers hlater⟩

/-- Whatever is read is regular. -/
theorem regular_read {cs : List Char} {v : Value} (h : read cs = .ok v) : Regular True v := by
  unfold read at h
  split at h
  · cases h
  next v rest hvalue =>
    split_ifs at h
    cases h
    exact (readsRegular _).value hvalue

theorem allShowable_of_forall {items : List Value} (h : ∀ v ∈ items, v.isShowable) :
    Value.allShowable items := by
  induction items with
  | nil => rfl
  | cons v items ih =>
    obtain ⟨hv, hitems⟩ := List.forall_mem_cons.mp h
    simp [Value.allShowable, hv, ih hitems]

theorem Regular.isShowable {fractions : Prop} {v : Value} (h : Regular fractions v) :
    v.isShowable := by
  induction h with
  | int hshown => exact hshown
  | list _ ih => exact allShowable_of_forall ih
  | table _ _ _ ih => exact Value.membersShowable_iff.mpr ih
  | _ => rfl

/-- Whatever is read can be shown. -/
theorem isShowable_read {cs : List Char} {v : Value} (h : read cs = .ok v) : v.isShowable :=
  (regular_read h).isShowable

end ImportStubs.Json
