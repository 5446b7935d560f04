import ImportStubs.Proofs.Database.Spelling
import Mathlib.Data.List.Nodup
import Mathlib.Data.Option.Basic

/-!
# What a descriptor says

A descriptor is valid if it consists of tables at the right places, gives a NID for everything that
needs one, and uses no NID twice where NIDs are looked up together. Then it describes one database:
its entities stand in the order of the descriptor, each under its name and its NID.
-/

namespace ImportStubs

namespace Descriptor

open NidDatabase

/-- The members of a table; nothing else has any. -/
def members : Value → List (Text × Value)
  | .table entries => entries
  | _ => []

/-- The value of a member, or a default if there is no such member. -/
def field (name : String) (default : Value) (v : Value) : Value := memberD (members v) name default

/-- The number that is given as the NID of a library or a module. -/
def nid? (v : Value) : Option Int := Nid.number? (field "nid" .null v)

def modulesIn (library : Value) : Value := field "modules" (.table []) library

def functionsIn (module : Value) : Value := field "functions" (.table []) module

def varsIn (module : Value) : Value := field "variables" (.table []) module

/-- The truth value that is given as the flag of a kernel module, which is not set by default. -/
def kernel? (module : Value) : Option Bool :=
  Validation.truth? (field "kernel" (.bool false) module)

def ValidNid (v : Value) : Prop := ∃ nid, Nid.Gives v nid

/-- A table whose members are all valid and have NIDs of their own, compared as numbers. -/
structure ValidTable (Valid : Value → Prop) (nid? : Value → Option Int) (v : Value) : Prop where
  isTable : v = .table (members v)
  valid : ∀ entry ∈ members v, Valid entry.2
  distinct : ((members v).map fun entry => nid? entry.2).Nodup

/-- The functions or the variables of a module: NIDs by name. -/
def ValidExports : Value → Prop := ValidTable ValidNid Nid.number?

structure ValidModule (v : Value) : Prop where
  isTable : v = .table (members v)
  nid : ValidNid (field "nid" .null v)
  kernel : ∃ flag, kernel? v = some flag
  functions : ValidExports (functionsIn v)
  vars : ValidExports (varsIn v)

structure ValidLibrary (v : Value) : Prop where
  isTable : v = .table (members v)
  nid : ValidNid (field "nid" .null v)
  modules : ValidTable ValidModule nid? (modulesIn v)

/-- A table of libraries. -/
def Valid : Value → Prop := ValidTable ValidLibrary nid?

/-- What is made of the members of a table, each under its NID. -/
def tabulate {α : Type} (nid : α → Int) (make : Text × Value → α) (v : Value) : List (Int × α) :=
  (members v).map fun entry => (nid (make entry), make entry)

def exportOf (entry : Text × Value) : Export := ⟨entry.1, (Nid.number? entry.2).getD 0⟩

def exportsOf : Value → List (Int × Export) := tabulate Export.nid exportOf

def moduleOf (entry : Text × Value) : Module where
  name := entry.1
  nid := (nid? entry.2).getD 0
  kernel := (kernel? entry.2).getD false
  functions := exportsOf (functionsIn entry.2)
  vars := exportsOf (varsIn entry.2)

def modulesOf : Value → List (Int × Module) := tabulate Module.nid moduleOf

def libraryOf (entry : Text × Value) : Library where
  name := entry.1
  nid := (nid? entry.2).getD 0
  modules := modulesOf (modulesIn entry.2)

/-- The database that a valid descriptor describes. -/
def databaseOf (v : Value) : NidDatabase := ⟨tabulate Library.nid libraryOf v⟩

theorem lookup_concat_eq_none_iff {α : Type} {xs : List (Int × α)} {a k : Int} {x : α} :
    (xs ++ [(k, x)]).lookup a = none ↔ xs.lookup a = none ∧ a ≠ k := by
  rw [List.lookup_append, Option.or_eq_none_iff, List.lookup_cons]
  by_cases ha : a = k
  · simp [ha]
  · simp [ha, beq_false_of_ne ha]

theorem tableOf_eq_ok_iff {what : Text} {v : Value} {entries : List (Text × Value)} :
    tableOf what v = .ok entries ↔ v = .table (members v) ∧ entries = members v := by
  cases v with
  | table found => simp [tableOf, members, eq_comm]
  | _ => exact iff_of_false (by rintro ⟨⟩) (by rintro ⟨⟨⟩, -⟩)

section Adding

variable {σ α : Type} {of : List (Int × α) → σ}
  {step : σ → Text × Value → Except DatabaseError σ} {Valid : Value → Prop}
  {nid? : Value → Option Int} {nid : α → Int} {make : Text × Value → α}

/-- A step that adds what it makes of a valid entry, under the NID that is given for it and that is
not in use yet. -/
structure Adds (of : List (Int × α) → σ) (step : σ → Text × Value → Except DatabaseError σ)
    (Valid : Value → Prop) (nid? : Value → Option Int) (nid : α → Int)
    (make : Text × Value → α) : Prop where
  nid_eq : ∀ entry, Valid entry.2 → nid? entry.2 = some (nid (make entry))
  step_eq_ok_iff : ∀ entries entry after, step (of entries) entry = .ok after ↔
    Valid entry.2 ∧ entries.lookup (nid (make entry)) = none ∧
      after = of (entries ++ [(nid (make entry), make entry)])

/-- All entries are added if they are valid, with NIDs that differ from one another and from those
in use. -/
theorem Adds.foldlM_eq_ok_iff (h : Adds of step Valid nid? nid make) (xs : List (Text × Value))
    (start : List (Int × α)) (result : σ) :
    xs.foldlM step (of start) = .ok result ↔
      (∀ entry ∈ xs, Valid entry.2) ∧ (xs.map fun entry => nid (make entry)).Nodup ∧
        (∀ entry ∈ xs, start.lookup (nid (make entry)) = none) ∧
        result = of (start ++ xs.map fun entry => (nid (make entry), make entry)) := by
  induction xs generalizing start with
  | nil =>
    constructor
    · rintro ⟨⟩
      simp
    · rintro ⟨-, -, -, rfl⟩
      simp [pure, Except.pure]
  | cons x xs ih =>
    rw [List.foldlM_cons, bind_eq_ok_iff]
    simp only [List.forall_mem_cons, List.map_cons, List.nodup_cons, h.step_eq_ok_iff,
      List.mem_map, not_exists, not_and]
    -- The NID of `x` is in use for the entries after it, which makes the NIDs distinct.
    constructor
    · rintro ⟨_, ⟨hvalid, hfree, rfl⟩, hrest⟩
      obtain ⟨hvalids, hnodup, hfrees, rfl⟩ := (ih _).mp hrest
      simp only [lookup_concat_eq_none_iff] at hfrees
      refine ⟨⟨hvalid, hvalids⟩, ⟨fun entry h => (hfrees entry h).2, hnodup⟩,
        ⟨hfree, fun entry h => (hfrees entry h).1⟩, ?_⟩
      rw [List.append_assoc]
      rfl
    · rintro ⟨⟨hvalid, hvalids⟩, ⟨hnew, hnodup⟩, ⟨hfree, hfrees⟩, rfl⟩
      refine ⟨_, ⟨hvalid, hfree, rfl⟩, (ih _).mpr ⟨hvalids, hnodup, fun entry h => ?_, ?_⟩⟩
      · exact lookup_concat_eq_none_iff.mpr ⟨hfrees entry h, hnew entry h⟩
      · rw [List.append_assoc]
        rfl

/-- The NIDs of valid entries are distinct as given exactly if they are as used. -/
theorem Adds.nodup_iff (h : Adds of step Valid nid? nid make) {xs : List (Text × Value)}
    (hvalid : ∀ entry ∈ xs, Valid entry.2) :
    (xs.map fun entry => nid? entry.2).Nodup ↔ (xs.map fun entry => nid (make entry)).Nodup := by
  have hmap : (xs.map fun entry => nid? entry.2) =
      (xs.map fun entry => nid (make entry)).map some := by
    rw [List.map_map]
    exact List.map_congr_left fun entry hmem => h.nid_eq entry (hvalid entry hmem)
  rw [hmap, List.nodup_map_iff (Option.some_injective Int)]

theorem Adds.table_eq_ok_iff (h : Adds of step Valid nid? nid make) {what : Text} {v : Value}
    {result : σ} :
    (tableOf what v >>= fun entries => entries.foldlM step (of [])) = .ok result ↔
      ValidTable Valid nid? v ∧ result = of (tabulate nid make v) := by
  simp only [bind_eq_ok_iff, tableOf_eq_ok_iff, h.foldlM_eq_ok_iff]
  constructor
  · rintro ⟨_, ⟨htable, rfl⟩, hvalid, hnodup, -, rfl⟩
    exact ⟨⟨htable, hvalid, (h.nodup_iff hvalid).mpr hnodup⟩, rfl⟩
  · rintro ⟨⟨htable, hvalid, hnodup⟩, rfl⟩
    exact ⟨_, ⟨htable, rfl⟩, hvalid, (h.nodup_iff hvalid).mp hnodup, fun _ _ => rfl, rfl⟩

end Adding

theorem number?_of_validNid {v : Value} (h : ValidNid v) :
    Nid.number? v = some ((Nid.number? v).getD 0) := by
  obtain ⟨nid, hgives⟩ := h
  rw [hgives.number_eq]
  rfl

theorem nid?_of_valid {v : Value} (h : ValidNid (field "nid" .null v)) :
    nid? v = some ((nid? v).getD 0) :=
  number?_of_validNid h

theorem adds_export (what : Text) :
    Adds (fun exports => exports) (addExport what) ValidNid Nid.number? Export.nid exportOf := by
  refine ⟨fun entry => number?_of_validNid, fun exports entry after => ?_⟩
  have hexport : ∀ {nid : Int}, Nid.Gives entry.2 nid → exportOf entry = ⟨entry.1, nid⟩ := by
    intro nid h
    rw [exportOf, h.number_eq]
    rfl
  simp only [addExport, bind_eq_ok_iff, Nid.read_eq_ok_iff]
  constructor
  · rintro ⟨nid, hgives, hadd⟩
    split at hadd
    · cases hadd
    next hfree =>
      cases hadd
      rw [hexport hgives]
      exact ⟨⟨nid, hgives⟩, hfree, rfl⟩
  · rintro ⟨⟨nid, hgives⟩, hfree, rfl⟩
    rw [hexport hgives] at hfree ⊢
    refine ⟨nid, hgives, ?_⟩
    rw [hfree]
    rfl

theorem readExports_eq_ok_iff {what : Text} {v : Value} {exports : List (Int × Export)} :
    readExports what v = .ok exports ↔ ValidExports v ∧ exports = exportsOf v :=
  (adds_export what).table_eq_ok_iff

theorem under_eq_ok_iff {α : Type} {key : Text} {x : Checked α} {a : α} :
    x.under key = .ok a ↔ x = .ok a := by
  cases x with
  | ok a => rfl
  | error issues => exact iff_of_false (by rintro ⟨⟩) (by rintro ⟨⟩)

theorem optional_boolean_eq_ok_iff {name : Text} {default b : Bool}
    {entries : List (Text × Value)} :
    Validation.optional name default Validation.boolean entries = .ok b ↔
      Validation.truth? ((Value.member? name entries).getD (.bool default)) = some b := by
  rw [← Validation.boolean_eq_ok_iff]
  cases hmember : Value.member? name entries with
  | none =>
    have hdefault : Validation.optional name default Validation.boolean entries = .ok default := by
      rw [Validation.optional, hmember]
      rfl
    rw [hdefault]
    rfl
  | some v =>
    have hcheck : Validation.optional name default Validation.boolean entries =
        (Validation.boolean v).under name := by
      rw [Validation.optional, hmember]
      rfl
    rw [hcheck]
    exact under_eq_ok_iff

theorem readModule_eq_ok_iff {name : Text} {v : Value} {m : Module} :
    readModule name v = .ok m ↔ ValidModule v ∧ m = moduleOf (name, v) := by
  have hmodule : ∀ {nid : Int} {kernel : Bool}, Nid.Gives (field "nid" .null v) nid →
      kernel? v = some kernel → moduleOf (name, v) =
        ⟨name, nid, kernel, exportsOf (functionsIn v), exportsOf (varsIn v)⟩ := by
    intro nid kernel hnid hkernel
    simp only [moduleOf, nid?, hnid.number_eq, hkernel, Option.getD_some]
  simp only [readModule, bind_eq_ok_iff, tableOf_eq_ok_iff, Nid.read_eq_ok_iff,
    readExports_eq_ok_iff]
  constructor
  · rintro ⟨_, ⟨htable, rfl⟩, nid, hnid, _, ⟨hfunctions, rfl⟩, _, ⟨hvars, rfl⟩, hresult⟩
    cases hkernel : Validation.optional "kernel" false Validation.boolean (members v) with
    | error issues =>
      rw [hkernel] at hresult
      cases hresult
    | ok kernel =>
      rw [hkernel] at hresult
      cases hresult
      have htruth := optional_boolean_eq_ok_iff.mp hkernel
      exact ⟨⟨htable, ⟨nid, hnid⟩, ⟨kernel, htruth⟩, hfunctions, hvars⟩, (hmodule hnid htruth).symm⟩
  · rintro ⟨⟨htable, ⟨nid, hnid⟩, ⟨kernel, htruth⟩, hfunctions, hvars⟩, rfl⟩
    refine ⟨_, ⟨htable, rfl⟩, nid, hnid, _, ⟨hfunctions, rfl⟩, _, ⟨hvars, rfl⟩, ?_⟩
    rw [optional_boolean_eq_ok_iff.mpr htruth, hmodule hnid htruth]
    rfl

theorem adds_module (library : Text) :
    Adds (fun modules => modules) (addModule library) ValidModule nid? Module.nid moduleOf := by
  refine ⟨fun entry h => nid?_of_valid h.nid, fun modules entry after => ?_⟩
  simp only [addModule, bind_eq_ok_iff, readModule_eq_ok_iff]
  constructor
  · rintro ⟨_, ⟨hvalid, rfl⟩, hadd⟩
    split at hadd
    · cases hadd
    next hfree =>
      cases hadd
      exact ⟨hvalid, hfree, rfl⟩
  · rintro ⟨hvalid, hfree, rfl⟩
    refine ⟨_, ⟨hvalid, rfl⟩, ?_⟩
    rw [hfree]
    rfl

/-- The modules of a library, read from their table. -/
def readModules (library : Text) (v : Value) : Except DatabaseError (List (Int × Module)) := do
  (← tableOf ("modules of " ++ library) v).foldlM (addModule library) []

theorem readModules_eq_ok_iff {library : Text} {v : Value} {modules : List (Int × Module)} :
    readModules library v = .ok modules ↔
      ValidTable ValidModule nid? v ∧ modules = modulesOf v :=
  (adds_module library).table_eq_ok_iff

theorem readLibrary_eq (name : Text) (v : Value) : readLibrary name v = do
    let entries ← tableOf ("library " ++ name) v
    let modules ← readModules name (memberD entries "modules" (.table []))
    let nid ← Nid.read ("library " ++ name) (memberD entries "nid" .null)
    return ⟨name, nid, modules⟩ := by
  simp only [readLibrary, readModules, bind_assoc]

theorem readLibrary_eq_ok_iff {name : Text} {v : Value} {library : Library} :
    readLibrary name v = .ok library ↔ ValidLibrary v ∧ library = libraryOf (name, v) := by
  have hcontent : ∀ {nid : Int}, Nid.Gives (field "nid" .null v) nid →
      libraryOf (name, v) = ⟨name, nid, modulesOf (modulesIn v)⟩ := by
    intro nid hnid
    simp only [libraryOf, nid?, hnid.number_eq, Option.getD_some]
  simp only [readLibrary_eq, bind_eq_ok_iff, tableOf_eq_ok_iff, readModules_eq_ok_iff,
    Nid.read_eq_ok_iff]
  constructor
  · rintro ⟨_, ⟨htable, rfl⟩, _, ⟨hmodules, rfl⟩, nid, hnid, hresult⟩
    cases hresult
    exact ⟨⟨htable, ⟨nid, hnid⟩, hmodules⟩, (hcontent hnid).symm⟩
  · rintro ⟨⟨htable, ⟨nid, hnid⟩, hmodules⟩, rfl⟩
    refine ⟨_, ⟨htable, rfl⟩, _, ⟨hmodules, rfl⟩, nid, hnid, ?_⟩
    rw [hcontent hnid]
    rfl

theorem adds_library :
    Adds NidDatabase.mk (fun db entry => do db.add (← readLibrary entry.1 entry.2)) ValidLibrary
      nid? Library.nid libraryOf := by
  refine ⟨fun entry h => nid?_of_valid h.nid, fun libraries entry after => ?_⟩
  simp only [bind_eq_ok_iff, readLibrary_eq_ok_iff, add, findLibrary]
  constructor
  · rintro ⟨_, ⟨hvalid, rfl⟩, hadd⟩
    split at hadd
    · cases hadd
    next hfree =>
      cases hadd
      exact ⟨hvalid, hfree, rfl⟩
  · rintro ⟨hvalid, hfree, rfl⟩
    refine ⟨_, ⟨hvalid, rfl⟩, ?_⟩
    rw [hfree]

/-- Exactly the valid descriptors are read, and what is read is what the descriptor says. -/
theorem ofDescriptor_eq_ok_iff {v : Value} {db : NidDatabase} :
    ofDescriptor v = .ok db ↔ Valid v ∧ db = databaseOf v :=
  adds_library.table_eq_ok_iff

end Descriptor

end ImportStubs
