import ImportStubs.Proofs.Database.Descriptor
import ImportStubs.Proofs.Members

/-!
# Acceptance of descriptors

A descriptor is read exactly if it is valid. The database then has the entries of the descriptor in
their order, and a chain of look-ups arrives at an entity exactly if the descriptor has entries
under these NIDs, each inside the one before.
-/

namespace ImportStubs

namespace Descriptor

open NidDatabase

/-- An entry of a table stands under a NID, however that is spelled. -/
structure Holds (nid? : Value → Option Int) (v : Value) (nid : Int) (entry : Text × Value) :
    Prop where
  mem : entry ∈ members v
  nid_eq : nid? entry.2 = some nid

/-- The database has the entries of the descriptor, and its look-ups find those and no others. -/
structure Describes (v : Value) (db : NidDatabase) : Prop where
  content : db = databaseOf v
  library_iff : ∀ a l, db.findLibrary a = some l ↔ ∃ e, Holds nid? v a e ∧ l = libraryOf e
  module_iff : ∀ a l b m, db.findLibrary a = some l ∧ findModule l b = some m ↔
    ∃ e f, Holds nid? v a e ∧ Holds nid? (modulesIn e.2) b f ∧ l = libraryOf e ∧ m = moduleOf f
  function_iff : ∀ a l b m c x,
    db.findLibrary a = some l ∧ findModule l b = some m ∧ findFunction m c = some x ↔
      ∃ e f g, Holds nid? v a e ∧ Holds nid? (modulesIn e.2) b f ∧
        Holds Nid.number? (functionsIn f.2) c g ∧ l = libraryOf e ∧ m = moduleOf f ∧ x = exportOf g
  variable_iff : ∀ a l b m c x,
    db.findLibrary a = some l ∧ findModule l b = some m ∧ findVariable m c = some x ↔
      ∃ e f g, Holds nid? v a e ∧ Holds nid? (modulesIn e.2) b f ∧
        Holds Nid.number? (varsIn f.2) c g ∧ l = libraryOf e ∧ m = moduleOf f ∧ x = exportOf g
  /-- What is found has the NID that was asked for. -/
  nid_eq : ∀ a l, db.findLibrary a = some l → l.nid = a ∧ ∀ b m, findModule l b = some m →
    m.nid = b ∧ (∀ c x, findFunction m c = some x → x.nid = c) ∧
      ∀ c x, findVariable m c = some x → x.nid = c

/-- In the content of a valid table, what is found under a NID comes from the entry under it. -/
theorem Adds.lookup_eq_some_iff {σ α : Type} {of : List (Int × α) → σ}
    {step : σ → Text × Value → Except DatabaseError σ} {Valid : Value → Prop}
    {nid? : Value → Option Int} {nid : α → Int} {make : Text × Value → α}
    (h : Adds of step Valid nid? nid make) {v : Value} (hvalid : ValidTable Valid nid? v) {a : Int}
    {x : α} :
    (tabulate nid make v).lookup a = some x ↔ ∃ e, Holds nid? v a e ∧ x = make e := by
  have hnids : ∀ e ∈ members v, nid? e.2 = some (nid (make e)) := fun e he =>
    h.nid_eq e (hvalid.valid e he)
  have hdistinct : ((tabulate nid make v).map Prod.fst).Nodup := by
    rw [tabulate, List.map_map]
    exact (h.nodup_iff hvalid.valid).mp hvalid.distinct
  rw [lookup_eq_some_iff_mem hdistinct, tabulate, List.mem_map]
  constructor
  · rintro ⟨e, he, heq⟩
    obtain ⟨rfl, rfl⟩ := Prod.mk.inj heq
    exact ⟨e, ⟨he, hnids e he⟩, rfl⟩
  · rintro ⟨e, ⟨he, hnid⟩, rfl⟩
    have hkey : nid (make e) = a := Option.some.inj ((hnids e he).symm.trans hnid)
    exact ⟨e, he, by rw [hkey]⟩

section Found

variable {v : Value} {e f : Text × Value}

theorem findLibrary_eq_some_iff (hvalid : Valid v) {a : Int} {l : Library} :
    (databaseOf v).findLibrary a = some l ↔ ∃ e, Holds nid? v a e ∧ l = libraryOf e :=
  adds_library.lookup_eq_some_iff hvalid

theorem findModule_eq_some_iff (hvalid : ValidLibrary e.2) {b : Int} {m : Module} :
    findModule (libraryOf e) b = some m ↔ ∃ f, Holds nid? (modulesIn e.2) b f ∧ m = moduleOf f :=
  (adds_module e.1).lookup_eq_some_iff hvalid.modules

theorem findFunction_eq_some_iff (hvalid : ValidModule f.2) {c : Int} {x : Export} :
    findFunction (moduleOf f) c = some x ↔
      ∃ g, Holds Nid.number? (functionsIn f.2) c g ∧ x = exportOf g :=
  (adds_export f.1).lookup_eq_some_iff hvalid.functions

theorem findVariable_eq_some_iff (hvalid : ValidModule f.2) {c : Int} {x : Export} :
    findVariable (moduleOf f) c = some x ↔
      ∃ g, Holds Nid.number? (varsIn f.2) c g ∧ x = exportOf g :=
  (adds_export f.1).lookup_eq_some_iff hvalid.vars

theorem validLibrary_of_holds (hvalid : Valid v) {a : Int} (h : Holds nid? v a e) :
    ValidLibrary e.2 :=
  hvalid.valid e h.mem

theorem validModule_of_holds (hvalid : ValidLibrary e.2) {b : Int}
    (h : Holds nid? (modulesIn e.2) b f) : ValidModule f.2 :=
  hvalid.modules.valid f h.mem

end Found

/-- Two look-ups lead where two entries lead, one inside the other. -/
theorem module_chain_iff {v : Value} (hvalid : Valid v) {a b : Int} {l : Library} {m : Module} :
    (databaseOf v).findLibrary a = some l ∧ findModule l b = some m ↔
      ∃ e f, Holds nid? v a e ∧ Holds nid? (modulesIn e.2) b f ∧ l = libraryOf e ∧
        m = moduleOf f := by
  rw [findLibrary_eq_some_iff hvalid]
  constructor
  · rintro ⟨⟨e, he, rfl⟩, hmodule⟩
    obtain ⟨f, hf, rfl⟩ := (findModule_eq_some_iff (validLibrary_of_holds hvalid he)).mp hmodule
    exact ⟨e, f, he, hf, rfl, rfl⟩
  · rintro ⟨e, f, he, hf, rfl, rfl⟩
    exact ⟨⟨e, he, rfl⟩,
      (findModule_eq_some_iff (validLibrary_of_holds hvalid he)).mpr ⟨f, hf, rfl⟩⟩

/-- A third look-up, of functions or of variables, leads one entry further. -/
theorem export_chain_iff {v : Value} (hvalid : Valid v) {find : Module → Int → Option Export}
    {exportsIn : Value → Value}
    (hfind : ∀ {f : Text × Value}, ValidModule f.2 → ∀ {c : Int} {x : Export},
      find (moduleOf f) c = some x ↔ ∃ g, Holds Nid.number? (exportsIn f.2) c g ∧ x = exportOf g)
    {a b c : Int} {l : Library} {m : Module} {x : Export} :
    (databaseOf v).findLibrary a = some l ∧ findModule l b = some m ∧ find m c = some x ↔
      ∃ e f g, Holds nid? v a e ∧ Holds nid? (modulesIn e.2) b f ∧
        Holds Nid.number? (exportsIn f.2) c g ∧ l = libraryOf e ∧ m = moduleOf f ∧
          x = exportOf g := by
  rw [← and_assoc, module_chain_iff hvalid]
  constructor
  · rintro ⟨⟨e, f, he, hf, rfl, rfl⟩, hexport⟩
    have hmodule := validModule_of_holds (validLibrary_of_holds hvalid he) hf
    obtain ⟨g, hg, rfl⟩ := (hfind hmodule).mp hexport
    exact ⟨e, f, g, he, hf, hg, rfl, rfl, rfl⟩
  · rintro ⟨e, f, g, he, hf, hg, rfl, rfl, rfl⟩
    have hmodule := validModule_of_holds (validLibrary_of_holds hvalid he) hf
    exact ⟨⟨e, f, he, hf, rfl, rfl⟩, (hfind hmodule).mpr ⟨g, hg, rfl⟩⟩

theorem nid_libraryOf {v : Value} {a : Int} {e : Text × Value} (h : Holds nid? v a e) :
    (libraryOf e).nid = a := by
  simp only [libraryOf, h.nid_eq, Option.getD_some]

theorem nid_moduleOf {v : Value} {b : Int} {f : Text × Value} (h : Holds nid? v b f) :
    (moduleOf f).nid = b := by
  simp only [moduleOf, h.nid_eq, Option.getD_some]

theorem nid_exportOf {v : Value} {c : Int} {g : Text × Value} (h : Holds Nid.number? v c g) :
    (exportOf g).nid = c := by
  simp only [exportOf, h.nid_eq, Option.getD_some]

theorem describes_databaseOf {v : Value} (hvalid : Valid v) : Describes v (databaseOf v) where
  content := rfl
  library_iff _ _ := findLibrary_eq_some_iff hvalid
  module_iff _ _ _ _ := module_chain_iff hvalid
  function_iff _ _ _ _ _ _ := export_chain_iff hvalid findFunction_eq_some_iff
  variable_iff _ _ _ _ _ _ := export_chain_iff hvalid findVariable_eq_some_iff
  nid_eq a l hlibrary := by
    obtain ⟨e, he, rfl⟩ := (findLibrary_eq_some_iff hvalid).mp hlibrary
    refine ⟨nid_libraryOf he, fun b m hmodule => ?_⟩
    have hlibrary := validLibrary_of_holds hvalid he
    obtain ⟨f, hf, rfl⟩ := (findModule_eq_some_iff hlibrary).mp hmodule
    have hmodule := validModule_of_holds hlibrary hf
    refine ⟨nid_moduleOf hf, fun c x hfunction => ?_, fun c x hvariable => ?_⟩
    · obtain ⟨g, hg, rfl⟩ := (findFunction_eq_some_iff hmodule).mp hfunction
      exact nid_exportOf hg
    · obtain ⟨g, hg, rfl⟩ := (findVariable_eq_some_iff hmodule).mp hvariable
      exact nid_exportOf hg

/-- Exactly the valid descriptors are read, and the database is the one that they describe. -/
theorem accepted_iff_valid (v : Value) :
    ((∃ db, ofDescriptor v = .ok db) ↔ Valid v) ∧
      ∀ db, ofDescriptor v = .ok db → Describes v db := by
  refine ⟨⟨?_, ?_⟩, ?_⟩
  · rintro ⟨db, hread⟩
    exact (ofDescriptor_eq_ok_iff.mp hread).1
  · intro hvalid
    exact ⟨databaseOf v, ofDescriptor_eq_ok_iff.mpr ⟨hvalid, rfl⟩⟩
  · intro db hread
    obtain ⟨hvalid, rfl⟩ := ofDescriptor_eq_ok_iff.mp hread
    exact describes_databaseOf hvalid

/-- Two libraries with a module of the same NID, in one of them written in another radix; a function
and a variable of that module share a NID too. -/
def sharing : Value :=
  .table [
    ("Kernel", .table [
      ("modules", .table [
        ("Threads", .table [
          ("nid", .text "0x10"),
          ("kernel", .text "Yes"),
          ("functions", .table [("exit", .text "0b100000"), ("start", .int 7)]),
          ("variables", .table [("guard", .int 32)])])]),
      ("nid", .text "0o2")]),
    ("User", .table [
      ("nid", .int 0xFFFFFFFF),
      ("modules", .table [("Threads", .table [("nid", .int 16)])])])]

theorem accepted_sharing :
    ∃ db, ofDescriptor sharing = .ok db ∧ Describes sharing db := by
  have h : ofDescriptor sharing = .ok (databaseOf sharing) := by rfl
  exact ⟨_, h, (accepted_iff_valid sharing).2 _ h⟩

/-- The names of the libraries, of their modules, and of the functions and variables of these. -/
def names (v : Value) : List Text :=
  (members v).flatMap fun l => l.1 :: (members (modulesIn l.2)).flatMap fun m =>
    m.1 :: (members (functionsIn m.2) ++ members (varsIn m.2)).map Prod.fst

/-- A library whose name is half of a surrogate pair. -/
def halfNamed : Value := .table [([.surrogate ⟨0, by decide⟩], .table [("nid", .int 1)])]

/-- Names are not looked at: one that holds a surrogate is as good as any other. -/
theorem accepted_halfNamed :
    ¬ ((∃ db, ofDescriptor halfNamed = .ok db) ↔
      Valid halfNamed ∧ ∀ name ∈ names halfNamed, Text.hasSurrogate name = false) := by
  intro h
  have hread : ∃ db, ofDescriptor halfNamed = .ok db := ⟨databaseOf halfNamed, rfl⟩
  have hplain := (h.mp hread).2 _ (List.mem_cons_self ..)
  cases hplain

end Descriptor

end ImportStubs
