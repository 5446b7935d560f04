import ImportStubs.Proofs.Except
import ImportStubs.Proofs.Members
import ImportStubs.Toml.Reader
import Mathlib.Data.Nat.Init

/-!
# Names in a TOML document

No table of a document that is read has two members of one name. A statement sets a new name or
extends a table that is there, and an extended table keeps its place.
-/

namespace ImportStubs.Toml

/-- No table in the value has two members of one name. -/
inductive Distinct : Value → Prop
  | leaf {v : Value} : isPiece v = false → Distinct v
  | list {items : List Value} : (∀ v ∈ items, Distinct v) → Distinct (.list items)
  | table {members : Members} : (members.map Prod.fst).Nodup → (∀ m ∈ members, Distinct m.2) →
      Distinct (.table members)

/-- The members of a table with distinct names, in which the same holds of every table. -/
structure DistinctMembers (members : Members) : Prop where
  nodup : (members.map Prod.fst).Nodup
  values : ∀ m ∈ members, Distinct m.2

theorem distinctMembers_nil : DistinctMembers [] := ⟨List.nodup_nil, by simp⟩

theorem distinct_table_iff {members : Members} :
    Distinct (.table members) ↔ DistinctMembers members := by
  constructor
  · intro h
    cases h with
    | leaf h => simp [isPiece] at h
    | table hnodup hvalues => exact ⟨hnodup, hvalues⟩
  · intro h
    exact .table h.nodup h.values

theorem distinct_list_iff {items : List Value} :
    Distinct (.list items) ↔ ∀ v ∈ items, Distinct v := by
  constructor
  · intro h
    cases h with
    | leaf h => simp [isPiece] at h
    | list hitems => exact hitems
  · exact .list

namespace DistinctMembers

variable {members : Members} (h : DistinctMembers members) {name : Text} {v : Value}
include h

theorem of_lookup (hlookup : members.lookup name = some v) : Distinct v := by
  obtain ⟨before, after, rfl, -⟩ := List.lookup_eq_some_iff.mp hlookup
  exact h.values (name, v) (by simp)

/-- A name that is absent can be added at the end. -/
theorem concat (hlookup : members.lookup name = none) (hv : Distinct v) :
    DistinctMembers (members ++ [(name, v)]) := by
  constructor
  · rw [List.map_append, List.map_singleton, ← List.concat_eq_append]
    exact h.nodup.concat (lookup_eq_none_iff_notMem.mp hlookup)
  · intro m hm
    rcases List.mem_append.mp hm with hm | hm
    · exact h.values m hm
    · rw [List.mem_singleton.mp hm]
      exact hv

theorem setMember (hv : Distinct v) : DistinctMembers (Value.setMember name v members) := by
  constructor
  · exact Value.nodup_setMember h.nodup
  · intro m hm
    rcases Value.mem_setMember hm with hm | rfl
    · exact h.values m hm
    · exact hv

end DistinctMembers

/-- Names that are distinct stay so. -/
def KeepsDistinct (change : Members → Option Members) : Prop :=
  ∀ ⦃members changed⦄, DistinctMembers members → change members = some changed →
    DistinctMembers changed

theorem keepsDistinct_updateAt {change : Members → Option Members} (hchange : KeepsDistinct change)
    (intoLists : Bool) (key : Key) : KeepsDistinct (updateAt intoLists change key) := by
  induction key with
  | nil => exact hchange
  | cons part key ih =>
    intro members changed h hupdate
    unfold updateAt at hupdate
    split at hupdate
    next hlookup =>
      obtain ⟨inner, hinner, rfl⟩ := Option.map_eq_some_iff.mp hupdate
      exact h.concat hlookup (distinct_table_iff.mpr (ih distinctMembers_nil hinner))
    next found hlookup =>
      obtain ⟨inner, hinner, rfl⟩ := Option.map_eq_some_iff.mp hupdate
      have hfound := distinct_table_iff.mp (h.of_lookup hlookup)
      exact h.setMember (distinct_table_iff.mpr (ih hfound hinner))
    next items hlookup =>
      have hitems := distinct_list_iff.mp (h.of_lookup hlookup)
      split at hupdate
      next found hlast =>
        obtain ⟨inner, hinner, rfl⟩ := Option.map_eq_some_iff.mp hupdate
        have hfound := distinct_table_iff.mp (hitems _ (List.mem_of_getLast? hlast))
        refine h.setMember (distinct_list_iff.mpr ?_)
        intro v hv
        rcases List.mem_append.mp hv with hv | hv
        · exact hitems v ((List.dropLast_sublist items).subset hv)
        · rw [List.mem_singleton.mp hv]
          exact distinct_table_iff.mpr (ih hfound hinner)
      · cases hupdate
    · cases hupdate

theorem keepsDistinct_insertNew (name : Text) {v : Value} (hv : Distinct v) :
    KeepsDistinct (insertNew name v) := by
  intro members changed h hinsert
  unfold insertNew at hinsert
  split_ifs at hinsert with hpresent
  cases hinsert
  exact h.concat (Option.not_isSome_iff_eq_none.mp hpresent) hv

theorem keepsDistinct_appendTable (name : Text) : KeepsDistinct (appendTable name) := by
  intro members changed h happend
  have hempty : Distinct (.table []) := distinct_table_iff.mpr distinctMembers_nil
  unfold appendTable at happend
  split at happend
  next hlookup =>
    cases happend
    exact h.concat hlookup (distinct_list_iff.mpr (by simpa using hempty))
  next items hlookup =>
    cases happend
    have hitems := distinct_list_iff.mp (h.of_lookup hlookup)
    refine h.setMember (distinct_list_iff.mpr ?_)
    intro v hv
    rcases List.mem_append.mp hv with hv | hv
    · exact hitems v hv
    · rw [List.mem_singleton.mp hv]
      exact hempty
  · cases happend

section Document

variable {d d' : Document} {key : Key} (h : DistinctMembers d.members)
include h

theorem distinctMembers_openTable (hopen : d.openTable key = some d') :
    DistinctMembers d'.members := by
  unfold Document.openTable at hopen
  dsimp only at hopen
  split_ifs at hopen
  obtain ⟨members, hupdate, rfl⟩ := Option.map_eq_some_iff.mp hopen
  have hsame : KeepsDistinct some := by
    rintro members _ h ⟨⟩
    exact h
  exact keepsDistinct_updateAt hsame true key h hupdate

theorem distinctMembers_openItem (hopen : d.openItem key = some d') :
    DistinctMembers d'.members := by
  unfold Document.openItem at hopen
  dsimp only at hopen
  split_ifs at hopen
  obtain ⟨members, hupdate, rfl⟩ := Option.map_eq_some_iff.mp hopen
  exact keepsDistinct_updateAt (keepsDistinct_appendTable _) true _ h hupdate

theorem distinctMembers_assign {v : Value} (hv : Distinct v) (hassign : d.assign key v = some d') :
    DistinctMembers d'.members := by
  unfold Document.assign at hassign
  dsimp only at hassign
  split_ifs at hassign
  all_goals
    obtain ⟨members, hupdate, rfl⟩ := Option.map_eq_some_iff.mp hassign
    exact keepsDistinct_updateAt (keepsDistinct_insertNew _ hv) true _ h hupdate

end Document

theorem distinctMembers_inline {t t' : InlineTable} {key : Key} {v : Value}
    (h : DistinctMembers t.members) (hv : Distinct v) (hassign : t.assign key v = some t') :
    DistinctMembers t'.members := by
  unfold InlineTable.assign at hassign
  split_ifs at hassign
  all_goals
    obtain ⟨members, hupdate, rfl⟩ := Option.map_eq_some_iff.mp hassign
    exact keepsDistinct_updateAt (keepsDistinct_insertNew _ hv) false _ h hupdate

theorem isPiece_readScalar {cs rest : List Char} {v : Value}
    (h : readScalar cs = .ok (v, rest)) : isPiece v = false := by
  unfold readScalar at h
  split at h
  · obtain ⟨_, -, heq⟩ := map_eq_ok_iff.mp h
    cases heq
    rfl
  · obtain ⟨_, -, heq⟩ := map_eq_ok_iff.mp h
    cases heq
    rfl
  · cases h
    rfl
  · cases h
    rfl
  · split at h
    · split_ifs at h
      cases h
      rfl
    · split at h
      · cases h
        rfl
      · split at h
        · cases h
          rfl
        · split at h
          · split_ifs at h
            · cases h
              rfl
            · cases h
              rfl
          · obtain ⟨_, -, heq⟩ := map_eq_ok_iff.mp h
            cases heq
            rfl

/-- What the three readers give at the start of a text has distinct names. -/
structure ReadsDistinct (cs : List Char) : Prop where
  value : ∀ {v rest}, readValue cs = .ok (v, rest) → Distinct v
  items : ∀ {items rest}, readItems cs = .ok (items, rest) → ∀ v ∈ items, Distinct v
  pairs : ∀ {table members rest}, DistinctMembers table.members →
    readPairs table cs = .ok (members, rest) → DistinctMembers members

section

variable {cs rest : List Char}
  (hlater : ∀ later : List Char, later.length < cs.length → ReadsDistinct later)
include hlater

theorem distinct_readValue {v : Value} (h : readValue cs = .ok (v, rest)) : Distinct v := by
  unfold readValue at h
  split at h
  next start =>
    obtain ⟨⟨items, after⟩, hitems, heq⟩ := map_eq_ok_iff.mp h
    cases heq
    exact distinct_list_iff.mpr ((hlater start (Nat.lt_succ_self _)).items hitems)
  next start =>
    split at h
    · cases h
      exact distinct_table_iff.mpr distinctMembers_nil
    · split_ifs at h with hle
      obtain ⟨⟨members, after⟩, hpairs, heq⟩ := map_eq_ok_iff.mp h
      cases heq
      have hnext := hlater _ (Nat.lt_succ_of_le hle)
      exact distinct_table_iff.mpr (hnext.pairs distinctMembers_nil hpairs)
  · exact .leaf (isPiece_readScalar h)

theorem distinct_readItems {items : List Value} (h : readItems cs = .ok (items, rest)) :
    ∀ v ∈ items, Distinct v := by
  unfold readItems at h
  split at h
  · cases h
  · cases h
    simp
  next start _ _ =>
    split_ifs at h with hle
    split at h
    · cases h
    next v after hvalue =>
      have hv : Distinct v := by
        rcases Nat.lt_or_eq_of_le hle with hlt | heq
        · exact (hlater start hlt).value hvalue
        · exact distinct_readValue (fun later hlt => hlater later (heq ▸ hlt)) hvalue
      split at h
      · cases h
        simpa using hv
      next next _ =>
        split_ifs at h with hlt
        obtain ⟨⟨others, _⟩, hitems, heq⟩ := map_eq_ok_iff.mp h
        cases heq
        exact List.forall_mem_cons.mpr ⟨hv, (hlater next hlt).items hitems⟩
      · cases h

theorem distinct_readPairs {table : InlineTable} {members : Members}
    (htable : DistinctMembers table.members) (h : readPairs table cs = .ok (members, rest)) :
    DistinctMembers members := by
  unfold readPairs at h
  split at h
  next key start _ =>
    split_ifs at h with hlt
    split at h
    · cases h
    next v after hvalue =>
      have hv : Distinct v := (hlater _ hlt).value hvalue
      split at h
      next assigned _ hassign _ =>
        cases h
        exact distinctMembers_inline htable hv hassign
      next assigned next hassign _ =>
        split_ifs at h with hshorter
        exact (hlater _ hshorter).pairs (distinctMembers_inline htable hv hassign) h
      · cases h
  · cases h

end

theorem readsDistinct (cs : List Char) : ReadsDistinct cs := by
  induction cs using (measure fun cs : List Char => cs.length).wf.induction with
  | _ cs hlater =>
    exact ⟨distinct_readValue hlater, distinct_readItems hlater, distinct_readPairs hlater⟩

theorem distinctMembers_readStatement {d d' : Document} {cs rest : List Char}
    (h : DistinctMembers d.members) (hread : readStatement d cs = .ok (d', rest)) :
    DistinctMembers d'.members := by
  unfold readStatement at hread
  split at hread
  · obtain ⟨⟨key, after⟩, -, hread⟩ := bind_eq_ok_iff.mp hread
    obtain ⟨opened, hopen, hread⟩ := bind_eq_ok_iff.mp hread
    generalize hitem : d.openItem key = item at hopen
    cases item <;> cases hopen
    split at hread <;> cases hread
    exact distinctMembers_openItem h hitem
  · obtain ⟨⟨key, after⟩, -, hread⟩ := bind_eq_ok_iff.mp hread
    obtain ⟨opened, hopen, hread⟩ := bind_eq_ok_iff.mp hread
    generalize htable : d.openTable key = table at hopen
    cases table <;> cases hopen
    split at hread <;> cases hread
    exact distinctMembers_openTable h htable
  · obtain ⟨⟨key, after⟩, -, hread⟩ := bind_eq_ok_iff.mp hread
    dsimp only at hread
    split at hread
    · obtain ⟨⟨v, after⟩, hvalue, hread⟩ := bind_eq_ok_iff.mp hread
      obtain ⟨assigned, hassigned, hread⟩ := bind_eq_ok_iff.mp hread
      generalize hset : d.assign key v = set at hassigned
      cases set <;> cases hassigned
      cases hread
      exact distinctMembers_assign h ((readsDistinct _).value hvalue) hset
    · cases hread

theorem distinctMembers_readLines {d d' : Document} {cs : List Char}
    (h : DistinctMembers d.members) (hread : readLines d cs = .ok d') :
    DistinctMembers d'.members := by
  fun_induction readLines d cs with
  | case1 =>
    cases hread
    exact h
  | case3 d cs rest hlt _ _ _ ih => exact ih h hread
  | case7 d cs next _ rest _ _ _ _ hstatement ih =>
    exact ih (distinctMembers_readStatement h hstatement) hread
  | _ => cases hread

/-- In a document that is read, the names of each table are distinct. -/
theorem distinctMembers_read {cs : List Char} {members : Members} (h : read cs = .ok members) :
    DistinctMembers members := by
  obtain ⟨d, hlines, rfl⟩ := map_eq_ok_iff.mp h
  exact distinctMembers_readLines distinctMembers_nil hlines

end ImportStubs.Toml
