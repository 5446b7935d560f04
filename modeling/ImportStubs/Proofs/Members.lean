import ImportStubs.Value
import Mathlib.Data.List.Nodup
import Mathlib.Tactic.Common

/-!
# Members under names

A list of pairs stands for a table. As long as no two members have one name, a look-up finds exactly
the members that are there, and setting a member keeps the names distinct. A table can be shown if
its members can.
-/

namespace ImportStubs

section LookUp

variable {κ α : Type} [BEq κ] [LawfulBEq κ] {entries : List (κ × α)} {a : κ}

/-- Under distinct keys, a look-up finds whatever stands under the key. -/
theorem lookup_eq_some_iff_mem (hdistinct : (entries.map Prod.fst).Nodup) {x : α} :
    entries.lookup a = some x ↔ (a, x) ∈ entries := by
  rw [List.lookup_eq_some_iff]
  constructor
  · rintro ⟨before, after, rfl, -⟩
    simp
  · intro hmem
    obtain ⟨before, after, rfl⟩ := List.append_of_mem hmem
    refine ⟨before, after, rfl, fun p hp => ?_⟩
    rw [List.map_append, List.map_cons, List.nodup_append] at hdistinct
    have hother : p.1 ≠ a := hdistinct.2.2 p.1 (List.mem_map_of_mem hp) a (List.mem_cons_self ..)
    simpa using hother.symm

theorem lookup_eq_none_iff_notMem : entries.lookup a = none ↔ a ∉ entries.map Prod.fst := by
  simp only [List.lookup_eq_none_iff, List.mem_map, not_exists, not_and, bne_iff_ne]
  exact forall₂_congr fun _ _ => ne_comm

end LookUp

namespace Value

variable {name : Text} {v : Value} {members : List (Text × Value)}

theorem mem_setMember {m : Text × Value} (h : m ∈ setMember name v members) :
    m ∈ members ∨ m = (name, v) := by
  induction members with
  | nil => exact .inr (List.mem_singleton.mp h)
  | cons first members ih =>
    rw [setMember] at h
    split_ifs at h with hsame
    · rcases List.mem_cons.mp h with rfl | h
      · exact .inr (by rw [hsame])
      · exact .inl (List.mem_cons_of_mem _ h)
    · rcases List.mem_cons.mp h with rfl | h
      · exact .inl (List.mem_cons_self ..)
      · exact (ih h).imp_left (List.mem_cons_of_mem _)

theorem nodup_setMember (h : (members.map Prod.fst).Nodup) :
    ((setMember name v members).map Prod.fst).Nodup := by
  induction members with
  | nil => simp [setMember]
  | cons first members ih =>
    rw [setMember]
    split_ifs with hsame
    · exact h
    · obtain ⟨hfirst, hrest⟩ := List.nodup_cons.mp h
      refine List.nodup_cons.mpr ⟨fun hmem => ?_, ih hrest⟩
      obtain ⟨m, hm, hname⟩ := List.mem_map.mp hmem
      rcases mem_setMember hm with hold | rfl
      · exact hfirst (List.mem_map.mpr ⟨m, hold, hname⟩)
      · exact hsame hname.symm

theorem setMember_of_notMem (h : name ∉ members.map Prod.fst) :
    setMember name v members = members ++ [(name, v)] := by
  induction members with
  | nil => rfl
  | cons m members ih =>
    rw [List.map_cons, List.mem_cons, not_or] at h
    rw [setMember, if_neg (Ne.symm h.1), ih h.2, List.cons_append]

theorem setMember_of_nodup {before : List (Text × Value)} {m : Text × Value}
    (h : ((before ++ m :: members).map Prod.fst).Nodup) :
    setMember m.1 m.2 before = before ++ [m] := by
  refine setMember_of_notMem fun hmem => ?_
  rw [List.map_append, List.map_cons] at h
  exact (List.nodup_append.mp h).2.2 _ hmem _ (List.mem_cons_self ..) rfl

theorem membersShowable_iff :
    membersShowable members = true ↔ ∀ m ∈ members, m.2.isShowable = true := by
  induction members with
  | nil => simp [membersShowable]
  | cons m members ih => simp only [membersShowable, Bool.and_eq_true, ih, List.forall_mem_cons]

end Value
end ImportStubs
