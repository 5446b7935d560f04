import ImportStubs.Proofs.Database.Descriptor
import ImportStubs.Proofs.Json.Regular

/-!
# Why a descriptor is not read

Almost every error speaks of the database. There is one exception: a value that is refused as a NID
is shown, and a number may be too long for that. This error comes out exactly if the reading comes
to such a value, for which everything that is read before it has to be valid.
-/

namespace ImportStubs

namespace Nid

/-- A value that cannot be shown when it is refused as a NID. -/
def Unshowable (v : Value) : Prop :=
  (∃ n, number? v = some n ∧ Numeral.isShowable n = false) ∨ v.isShowable = false

theorem refuse_eq_unshowable_iff {what : Text} {v : Value} :
    refuse what v = .unshowableNid ↔ v.isShowable = false := by
  unfold refuse
  cases v.isShowable <;> simp

theorem isShowable_of_lt {n : Int} (hnonneg : 0 ≤ n) (hlt : n < limit) :
    Numeral.isShowable n = true := by
  have hsmall : n.natAbs < 10 ^ 10 := by
    unfold limit at hlt
    omega
  exact Numeral.isShowable_of_natAbs_lt hsmall (by decide)

theorem ofInt_eq_unshowable_iff {what : Text} {n : Int} :
    ofInt what n = .error .unshowableNid ↔ Numeral.isShowable n = false := by
  unfold ofInt
  split_ifs with hrange
  · refine iff_of_false (by rintro ⟨⟩) ?_
    rw [isShowable_of_lt hrange.1 hrange.2]
    decide
  · rw [Except.error.injEq]
    exact refuse_eq_unshowable_iff

theorem read_eq_unshowable_iff {what : Text} {v : Value} :
    read what v = .error .unshowableNid ↔ Unshowable v := by
  have hother : ∀ {w : Value}, number? w = none →
      ((.error (refuse what w) : Except DatabaseError Int) = .error .unshowableNid ↔
        Unshowable w) := by
    intro w hnone
    rw [Except.error.injEq, refuse_eq_unshowable_iff, Unshowable, hnone]
    simp
  have hnumber : ∀ {w : Value} {n : Int}, number? w = some n →
      (w.isShowable = false → Numeral.isShowable n = false) →
      (ofInt what n = .error .unshowableNid ↔ Unshowable w) := by
    intro w n hsome himp
    rw [ofInt_eq_unshowable_iff, Unshowable, hsome]
    simpa using himp
  cases v with
  | int n => exact hnumber rfl id
  | text t =>
    rw [read]
    cases ht : Numeral.parse? t with
    | none => exact hother ht
    | some n => exact hnumber ht (by rintro ⟨⟩)
  | _ => exact hother rfl

end Nid

namespace Descriptor

open NidDatabase

/-- Some entry of a table is reached, as all entries before it are valid, and has a property. -/
def Within (Valid : Value → Prop) (nid? : Value → Option Int) (P : Value → Prop) (v : Value) :
    Prop :=
  ∃ before entry after, v = .table (before ++ entry :: after) ∧
    ValidTable Valid nid? (.table before) ∧ P entry.2

/-- The reading of a module comes to a value that has a property, and takes it for a NID. -/
inductive ModuleReaches (P : Value → Prop) (v : Value) : Prop
  | own (htable : v = .table (members v)) (h : P (field "nid" .null v))
  | inFunctions (htable : v = .table (members v)) (hnid : ValidNid (field "nid" .null v))
      (h : Within ValidNid Nid.number? P (functionsIn v))
  | inVars (htable : v = .table (members v)) (hnid : ValidNid (field "nid" .null v))
      (hfunctions : ValidExports (functionsIn v)) (h : Within ValidNid Nid.number? P (varsIn v))

/-- A library gives its modules before its own NID. -/
inductive LibraryReaches (P : Value → Prop) (v : Value) : Prop
  | inModules (htable : v = .table (members v))
      (h : Within ValidModule nid? (ModuleReaches P) (modulesIn v))
  | own (htable : v = .table (members v)) (hmodules : ValidTable ValidModule nid? (modulesIn v))
      (h : P (field "nid" .null v))

/-- The reading of a descriptor comes to a value that has a property, and takes it for a NID. -/
def Reaches (P : Value → Prop) : Value → Prop := Within ValidLibrary nid? (LibraryReaches P)

theorem eq_notTable_of_tableOf {what : Text} {v : Value} {e : DatabaseError}
    (h : tableOf what v = .error e) : e = .notTable what := by
  cases v <;> cases h <;> rfl

/-- Entries that are added one by one come to a number that cannot be shown if one of them that is
reached does. -/
theorem Adds.table_eq_unshowable_iff {σ α : Type} {of : List (Int × α) → σ}
    {step : σ → Text × Value → Except DatabaseError σ} {Valid P : Value → Prop}
    {nid? : Value → Option Int} {nid : α → Int} {make : Text × Value → α}
    (h : Adds of step Valid nid? nid make)
    (hfail : ∀ entries entry, step (of entries) entry = .error .unshowableNid ↔ P entry.2)
    {what : Text} {v : Value} :
    (tableOf what v >>= fun entries => entries.foldlM step (of [])) = .error .unshowableNid ↔
      Within Valid nid? P v := by
  have hprefix : ∀ {before : List (Text × Value)} {acc : σ},
      before.foldlM step (of []) = .ok acc ↔
        ValidTable Valid nid? (.table before) ∧ acc = of (tabulate nid make (.table before)) := by
    intro before acc
    have hall : (tableOf what (.table before) >>= fun entries => entries.foldlM step (of [])) =
        .ok acc ↔ _ := h.table_eq_ok_iff
    exact hall
  rw [bind_eq_error_iff]
  constructor
  · rintro (htable | ⟨entries, htable, hfold⟩)
    · cases eq_notTable_of_tableOf htable
    · obtain ⟨hv, rfl⟩ := tableOf_eq_ok_iff.mp htable
      obtain ⟨before, entry, after, acc, hsplit, hbefore, hentry⟩ := foldlM_eq_error_iff.mp hfold
      obtain ⟨hvalid, rfl⟩ := hprefix.mp hbefore
      exact ⟨before, entry, after, hsplit ▸ hv, hvalid, (hfail _ _).mp hentry⟩
  · rintro ⟨before, entry, after, rfl, hvalid, hentry⟩
    have hfold := foldlM_eq_error_iff.mpr ⟨before, entry, after, _, rfl,
      hprefix.mpr ⟨hvalid, rfl⟩, (hfail _ _).mpr hentry⟩
    exact .inr ⟨_, rfl, hfold⟩

theorem addExport_eq_unshowable_iff {what : Text} {exports : List (Int × Export)}
    {entry : Text × Value} :
    addExport what exports entry = .error .unshowableNid ↔ Nid.Unshowable entry.2 := by
  rw [addExport, bind_eq_error_iff, Nid.read_eq_unshowable_iff]
  refine or_iff_left ?_
  rintro ⟨nid, -, hadd⟩
  split at hadd <;> cases hadd

theorem readExports_eq_unshowable_iff {what : Text} {v : Value} :
    readExports what v = .error .unshowableNid ↔
      Within ValidNid Nid.number? Nid.Unshowable v :=
  (adds_export what).table_eq_unshowable_iff fun _ _ => addExport_eq_unshowable_iff

theorem readModule_eq_unshowable_iff {name : Text} {v : Value} :
    readModule name v = .error .unshowableNid ↔ ModuleReaches Nid.Unshowable v := by
  simp only [readModule, bind_eq_error_iff, tableOf_eq_ok_iff, Nid.read_eq_ok_iff,
    readExports_eq_ok_iff, Nid.read_eq_unshowable_iff]
  constructor
  · rintro (htable | ⟨_, ⟨htable, rfl⟩, hown | ⟨nid, hnid, hfunctions |
      ⟨_, ⟨hfunctions, rfl⟩, hvars | ⟨_, -, hkernel⟩⟩⟩⟩)
    · cases eq_notTable_of_tableOf htable
    · exact .own htable hown
    · exact .inFunctions htable ⟨nid, hnid⟩ (readExports_eq_unshowable_iff.mp hfunctions)
    · exact .inVars htable ⟨nid, hnid⟩ hfunctions (readExports_eq_unshowable_iff.mp hvars)
    · split at hkernel <;> cases hkernel
  · rintro (⟨htable, hown⟩ | ⟨htable, ⟨nid, hnid⟩, hfunctions⟩ |
      ⟨htable, ⟨nid, hnid⟩, hfunctions, hvars⟩)
    · exact .inr ⟨_, ⟨htable, rfl⟩, .inl hown⟩
    · exact .inr ⟨_, ⟨htable, rfl⟩, .inr ⟨nid, hnid,
        .inl (readExports_eq_unshowable_iff.mpr hfunctions)⟩⟩
    · exact .inr ⟨_, ⟨htable, rfl⟩, .inr ⟨nid, hnid, .inr ⟨_, ⟨hfunctions, rfl⟩,
        .inl (readExports_eq_unshowable_iff.mpr hvars)⟩⟩⟩

theorem addModule_eq_unshowable_iff {library : Text} {modules : List (Int × Module)}
    {entry : Text × Value} :
    addModule library modules entry = .error .unshowableNid ↔
      ModuleReaches Nid.Unshowable entry.2 := by
  rw [addModule, bind_eq_error_iff, readModule_eq_unshowable_iff]
  refine or_iff_left ?_
  rintro ⟨m, -, hadd⟩
  split at hadd <;> cases hadd

theorem readLibrary_eq_unshowable_iff {name : Text} {v : Value} :
    readLibrary name v = .error .unshowableNid ↔ LibraryReaches Nid.Unshowable v := by
  have hmodules : ∀ {w : Value}, readModules name w = .error .unshowableNid ↔
      Within ValidModule nid? (ModuleReaches Nid.Unshowable) w :=
    (adds_module name).table_eq_unshowable_iff fun _ _ => addModule_eq_unshowable_iff
  simp only [readLibrary_eq, bind_eq_error_iff, tableOf_eq_ok_iff, readModules_eq_ok_iff,
    hmodules, Nid.read_eq_unshowable_iff]
  constructor
  · rintro (htable | ⟨_, ⟨htable, rfl⟩, hreached | ⟨_, ⟨hvalid, rfl⟩, hown | ⟨_, -, hresult⟩⟩⟩)
    · cases eq_notTable_of_tableOf htable
    · exact .inModules htable hreached
    · exact .own htable hvalid hown
    · cases hresult
  · rintro (⟨htable, hreached⟩ | ⟨htable, hvalid, hown⟩)
    · exact .inr ⟨_, ⟨htable, rfl⟩, .inl hreached⟩
    · exact .inr ⟨_, ⟨htable, rfl⟩, .inr ⟨_, ⟨hvalid, rfl⟩, .inl hown⟩⟩

theorem addLibrary_eq_unshowable_iff {libraries : List (Int × Library)} {entry : Text × Value} :
    (do (NidDatabase.mk libraries).add (← readLibrary entry.1 entry.2)) = .error .unshowableNid ↔
      LibraryReaches Nid.Unshowable entry.2 := by
  rw [bind_eq_error_iff, readLibrary_eq_unshowable_iff]
  refine or_iff_left ?_
  rintro ⟨library, -, hadd⟩
  unfold add at hadd
  split at hadd <;> cases hadd

/-- The reading fails at a number that cannot be shown exactly if it comes to one. -/
theorem ofDescriptor_eq_unshowable_iff {v : Value} :
    ofDescriptor v = .error .unshowableNid ↔ Reaches Nid.Unshowable v :=
  adds_library.table_eq_unshowable_iff fun _ _ => addLibrary_eq_unshowable_iff

/-- The error speaks of the database, or it is that of a number that cannot be shown. -/
def Expected (e : DatabaseError) : Prop := e.isDatabaseFault = true ∨ e = .unshowableNid

theorem expected_tableOf (what : Text) (v : Value) : FailsOnly Expected (tableOf what v) := by
  intro e h
  rw [eq_notTable_of_tableOf h]
  exact .inl rfl

theorem expected_refuse (what : Text) (v : Value) : Expected (Nid.refuse what v) := by
  unfold Nid.refuse
  split_ifs
  · exact .inl rfl
  · exact .inr rfl

theorem expected_nid (what : Text) (v : Value) : FailsOnly Expected (Nid.read what v) := by
  have hnumber : ∀ n, FailsOnly Expected (Nid.ofInt what n) := by
    intro n
    unfold Nid.ofInt
    split_ifs
    · exact failsOnly_ok n
    · exact failsOnly_error (expected_refuse ..)
  unfold Nid.read
  split
  · exact hnumber _
  · split
    · exact hnumber _
    · exact failsOnly_error (expected_refuse ..)
  · exact failsOnly_error (expected_refuse ..)

theorem expected_addExport (what : Text) (exports : List (Int × Export)) (entry : Text × Value) :
    FailsOnly Expected (addExport what exports entry) := by
  refine (expected_nid _ _).bind fun nid _ => ?_
  split
  · exact failsOnly_error (.inl rfl)
  · exact failsOnly_ok _

theorem expected_readExports (what : Text) (v : Value) :
    FailsOnly Expected (readExports what v) :=
  (expected_tableOf _ _).bind fun entries _ => .foldlM (expected_addExport what) entries []

theorem expected_readModule (name : Text) (v : Value) :
    FailsOnly Expected (readModule name v) := by
  refine (expected_tableOf _ _).bind fun entries _ => (expected_nid _ _).bind fun nid _ =>
    (expected_readExports _ _).bind fun functions _ =>
      (expected_readExports _ _).bind fun vars _ => ?_
  split
  · exact failsOnly_ok _
  · exact failsOnly_error (.inl rfl)

theorem expected_addModule (library : Text) (modules : List (Int × Module))
    (entry : Text × Value) : FailsOnly Expected (addModule library modules entry) := by
  refine (expected_readModule _ _).bind fun m _ => ?_
  split
  · exact failsOnly_error (.inl rfl)
  · exact failsOnly_ok _

theorem expected_readLibrary (name : Text) (v : Value) :
    FailsOnly Expected (readLibrary name v) :=
  (expected_tableOf _ _).bind fun _ _ => (expected_tableOf _ _).bind fun entries _ =>
    (FailsOnly.foldlM (expected_addModule name) entries []).bind fun _ _ =>
      (expected_nid _ _).bind fun _ _ => failsOnly_ok _

theorem expected_add (db : NidDatabase) (library : Library) :
    FailsOnly Expected (db.add library) := by
  unfold add
  split
  · exact failsOnly_error (.inl rfl)
  · exact failsOnly_ok _

theorem expected_ofDescriptor (v : Value) : FailsOnly Expected (ofDescriptor v) :=
  (expected_tableOf _ _).bind fun entries _ =>
    .foldlM (fun db _ => (expected_readLibrary _ _).bind fun library _ => expected_add db library)
      entries empty

end Descriptor
end ImportStubs
