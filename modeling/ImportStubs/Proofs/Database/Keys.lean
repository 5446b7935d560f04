import ImportStubs.Database.Fields
import ImportStubs.Proofs.Database.Acceptance
import ImportStubs.Proofs.Database.Names
import ImportStubs.Proofs.Database.Registration
import ImportStubs.Proofs.Resolution.Visits

/-!
# Keys and NIDs

The entities inside a library or a module stand under keys. Validation keeps the keys of a table
distinct, but it reads them apart from the NIDs and compares none with the NID of the entity under
it. So a look-up is sure to find the NID that it asks for among the libraries of a database, which
are registered under their own NIDs, and further inside exactly if the libraries that were added
have every entity under its own NID.
-/

namespace ImportStubs

namespace Checked

theorem map_eq_ok {α β : Type} {f : α → β} {x : Checked α} {y : β} :
    f <$> x = .ok y ↔ ∃ a, x = .ok a ∧ f a = y := by
  constructor
  · intro h
    cases x with
    | ok a => exact ⟨a, rfl, Except.ok.inj h⟩
    | error issues => nomatch h
  · rintro ⟨a, rfl, rfl⟩
    rfl

end Checked

namespace Validation

open Checked Descriptor

/-- Under distinct keys stand values that pass a check. -/
structure Distinct {α : Type} (Good : α → Prop) (entries : List (Int × α)) : Prop where
  keys : (entries.map Prod.fst).Nodup
  good : ∀ e ∈ entries, Good e.2

variable {α : Type} {Good : α → Prop} {entries : List (Int × α)}

theorem Distinct.nil : Distinct Good [] := ⟨List.nodup_nil, fun _ h => absurd h List.not_mem_nil⟩

theorem mem_setKey {key : Int} {value : α} {e : Int × α} (h : e ∈ setKey key value entries) :
    e ∈ entries ∨ e = (key, value) := by
  induction entries with
  | nil => exact .inr (List.mem_singleton.mp h)
  | cons entry rest ih =>
    rw [setKey] at h
    split_ifs at h with hkey
    · rcases List.mem_cons.mp h with rfl | hrest
      · exact .inr (by rw [hkey])
      · exact .inl (List.mem_cons_of_mem _ hrest)
    · rcases List.mem_cons.mp h with rfl | hrest
      · exact .inl (List.mem_cons_self ..)
      · exact (ih hrest).imp (List.mem_cons_of_mem _) id

theorem keys_setKey (key : Int) (value : α) (entries : List (Int × α)) :
    (setKey key value entries).map Prod.fst =
      if key ∈ entries.map Prod.fst then entries.map Prod.fst
      else entries.map Prod.fst ++ [key] := by
  induction entries with
  | nil => rfl
  | cons entry rest ih =>
    rw [setKey]
    by_cases hkey : entry.1 = key
    · simp [hkey]
    · simp only [if_neg hkey, List.map_cons, ih, List.mem_cons, Ne.symm hkey, false_or]
      split_ifs <;> rfl

theorem Distinct.setKey (h : Distinct Good entries) {value : α} (hvalue : Good value)
    (key : Int) : Distinct Good (setKey key value entries) where
  keys := by
    rw [keys_setKey]
    split_ifs with hmem
    · exact h.keys
    · rw [← List.concat_eq_append]
      exact h.keys.concat hmem
  good e he := by
    rcases mem_setKey he with hold | rfl
    · exact h.good e hold
    · exact hvalue

/-- A table with integers for names comes out under distinct keys. -/
theorem distinct_of_keyed {read : Value → Checked α} {v : Value}
    (hread : ∀ w a, read w = .ok a → Good a) (h : keyed read v = .ok entries) :
    Distinct Good entries := by
  cases v with
  | table members =>
    -- the induction is over the members, and what has been read so far is distinct
    have hfold : ∀ (members : List (Text × Value)) (start : Checked (List (Int × α))),
        (∀ es, start = .ok es → Distinct Good es) → members.foldl (fun es m =>
          (fun es e => Validation.setKey e.1 e.2 es) <$> es <*>
            (Prod.mk <$> (integerOfText m.1).under "[key]" <*> read m.2).under (reportedName m.1))
          start = .ok entries → Distinct Good entries := by
      intro members
      induction members with
      | nil => exact fun start hstart h => hstart entries h
      | cons m rest ih =>
        intro start hstart h
        refine ih _ (fun es hes => ?_) h
        obtain ⟨g, e, hg, he, rfl⟩ := seq_eq_ok.mp hes
        obtain ⟨before, hbefore, rfl⟩ := map_eq_ok.mp hg
        obtain ⟨pair, value, hpair, hvalue, rfl⟩ := seq_eq_ok.mp (under_eq_ok_iff.mp he)
        obtain ⟨key, -, rfl⟩ := map_eq_ok.mp hpair
        exact (hstart before hbefore).setKey (hread m.2 value hvalue) key
    refine hfold members (.ok []) (fun es hes => ?_) h
    cases hes
    exact .nil
  | _ => cases h

theorem of_optional {name : Text} {default a : α} {check : Value → Checked α}
    {members : List (Text × Value)} (hdefault : Good default)
    (hcheck : ∀ v b, check v = .ok b → Good b) (h : optional name default check members = .ok a) :
    Good a := by
  rw [optional, under_eq_ok_iff] at h
  cases hmember : Value.member? name members with
  | none =>
    rw [hmember] at h
    cases h
    exact hdefault
  | some v =>
    rw [hmember] at h
    exact hcheck v a h

theorem of_entity {read : List (Text × Value) → Checked α}
    (hread : ∀ members a, read members = .ok a → Good a) {v : Value} {a : α}
    (h : entity read v = .ok a) : Good a := by
  cases v with
  | table members => exact hread members a h
  | _ => cases h

end Validation

structure Module.Distinct (m : Module) : Prop where
  functions : (m.functions.map Prod.fst).Nodup
  vars : (m.vars.map Prod.fst).Nodup

/-- No two modules have one key, and each of them has distinct keys itself. -/
def Library.Distinct (l : Library) : Prop := Validation.Distinct Module.Distinct l.modules

/-- The library is built from fields that pass validation. -/
def Library.Validated (l : Library) : Prop := ∃ members, Library.ofFields members = .ok l

open Checked Validation in
theorem Module.distinct_of_ofFields {members : List (Text × Value)} {m : Module}
    (h : Module.ofFields members = .ok m) : m.Distinct := by
  obtain ⟨_, vars, hupToFunctions, hvars, rfl⟩ := seq_eq_ok.mp h
  obtain ⟨_, functions, hupToKernel, hfunctions, rfl⟩ := seq_eq_ok.mp hupToFunctions
  obtain ⟨_, kernel, hupToNid, -, rfl⟩ := seq_eq_ok.mp hupToKernel
  obtain ⟨_, nid, hname, -, rfl⟩ := seq_eq_ok.mp hupToNid
  obtain ⟨name, -, rfl⟩ := map_eq_ok.mp hname
  have hexports : ∀ v exports, keyed (entity Export.ofFields) v = .ok exports →
      Validation.Distinct (fun _ => True) exports :=
    fun v exports hv => distinct_of_keyed (fun _ _ _ => trivial) hv
  exact ⟨(of_optional .nil hexports hfunctions).keys, (of_optional .nil hexports hvars).keys⟩

open Checked Validation in
theorem Library.Validated.distinct {l : Library} (h : l.Validated) : l.Distinct := by
  obtain ⟨members, hread⟩ := h
  obtain ⟨_, modules, hupToNid, hmodules, rfl⟩ := seq_eq_ok.mp hread
  obtain ⟨_, nid, hname, -, rfl⟩ := seq_eq_ok.mp hupToNid
  obtain ⟨name, -, rfl⟩ := map_eq_ok.mp hname
  have hentries : ∀ v entries, keyed (entity Module.ofFields) v = .ok entries →
      Validation.Distinct Module.Distinct entries := fun v entries hv =>
    distinct_of_keyed (fun w m => of_entity fun _ _ => Module.distinct_of_ofFields) hv
  have hmodules' : Validation.Distinct Module.Distinct modules :=
    of_optional .nil hentries hmodules
  exact hmodules'

/-- Every export stands under its own NID. -/
structure Module.Keyed (m : Module) : Prop where
  functions : ∀ x ∈ m.functions, x.2.nid = x.1
  vars : ∀ x ∈ m.vars, x.2.nid = x.1

/-- Every module, and every export in it, stands under its own NID. -/
structure Library.Keyed (l : Library) : Prop where
  modules : ∀ m ∈ l.modules, m.2.nid = m.1
  within : ∀ m ∈ l.modules, m.2.Keyed

/-- Every export, and the module of every export, stands under its own NID. A module without
exports may stand under any key. -/
def Library.TargetsKeyed (l : Library) : Prop :=
  ∀ m ∈ l.modules, ∀ x ∈ m.2.functions ++ m.2.vars, m.2.nid = m.1 ∧ x.2.nid = x.1

theorem Library.Keyed.targetsKeyed {l : Library} (h : l.Keyed) : l.TargetsKeyed := by
  intro m hm x hx
  refine ⟨h.modules m hm, ?_⟩
  rcases List.mem_append.mp hx with hx | hx
  · exact (h.within m hm).functions x hx
  · exact (h.within m hm).vars x hx

namespace NidDatabase

open Resolution Descriptor

/-- What is found, in the database or in something found before, has the NID asked for. -/
structure FindsOwn (db : NidDatabase) : Prop where
  library : ∀ a l, db.findLibrary a = some l → l.nid = a
  module : ∀ a l, db.findLibrary a = some l → ∀ b m, findModule l b = some m → m.nid = b
  function : ∀ a l, db.findLibrary a = some l → ∀ b m, findModule l b = some m →
    ∀ c x, findFunction m c = some x → x.nid = c
  var : ∀ a l, db.findLibrary a = some l → ∀ b m, findModule l b = some m →
    ∀ c x, findVariable m c = some x → x.nid = c

def attached (s : Stub) (l : Library) (m : Module) (x : Export) : Stub :=
  { s with library := some (.library l), module := some (.module m), target := some (.target x) }

/-- If the stub is resolved, it has a library, a module and a target with its three NIDs. -/
def ResolvesOwn (db : NidDatabase) (s : Stub) : Prop :=
  missed db.lookups s = none → ∃ l m x, resolved db.lookups s = attached s l m x ∧
    l.nid = s.libraryNid ∧ m.nid = s.moduleNid ∧ x.nid = s.targetNid

def exportsFor (m : Module) : StubKind → List (Int × Export)
  | .functionStub => m.functions
  | .variableStub => m.vars

theorem findTarget_module (db : NidDatabase) (kind : StubKind) (m : Module) (nid : Int) :
    findTarget db.lookups kind (.module m) nid =
      ((exportsFor m kind).lookup nid).map Entity.target := by
  cases kind <;> rfl

variable {db : NidDatabase} {s : Stub}

/-- A stub is resolved to what is found under its three NIDs. -/
theorem resolve_of_found {l : Library} {m : Module} {x : Export}
    (hlibrary : db.findLibrary s.libraryNid = some l) (hmodule : findModule l s.moduleNid = some m)
    (htarget : (exportsFor m s.kind).lookup s.targetNid = some x) :
    resolve db.lookups s = (attached s l m x, none) := by
  have hlibrary' : db.lookups.findLibrary s.libraryNid = some (.library l) :=
    congrArg (Option.map Entity.library) hlibrary
  have hmodule' : db.lookups.findModule (.library l) s.moduleNid = some (.module m) :=
    congrArg (Option.map Entity.module) hmodule
  have htarget' : findTarget db.lookups s.kind (.module m) s.targetNid = some (.target x) := by
    rw [findTarget_module, htarget]
    rfl
  rw [resolve_eq, lookUp_eq, hlibrary']
  dsimp only
  rw [hmodule']
  dsimp only
  rw [htarget']
  rfl

theorem found_of_missed (h : missed db.lookups s = none) :
    ∃ l m x, db.findLibrary s.libraryNid = some l ∧ findModule l s.moduleNid = some m ∧
      (exportsFor m s.kind).lookup s.targetNid = some x ∧
      resolved db.lookups s = attached s l m x := by
  have hvisit := visit_resolve db.lookups s
  rw [h] at hvisit
  generalize asked db.lookups s = questions, resolved db.lookups s = after at hvisit
  cases hvisit with
  | found library_eq module_eq target_eq =>
    obtain ⟨l, hl, rfl⟩ := Option.map_eq_some_iff.mp library_eq
    obtain ⟨m, hm, rfl⟩ := Option.map_eq_some_iff.mp module_eq
    rw [findTarget_module] at target_eq
    obtain ⟨x, hx, rfl⟩ := Option.map_eq_some_iff.mp target_eq
    exact ⟨l, m, x, hl, hm, hx, rfl⟩

/-- A library in which every entity is found under its own NID has them all under it. -/
theorem FindsOwn.keyed (h : db.FindsOwn) {l : Library} (hdistinct : l.Distinct)
    (hl : db.findLibrary l.nid = some l) : l.Keyed where
  modules m hm := h.module _ l hl m.1 m.2 ((lookup_eq_some_iff_mem hdistinct.keys).mpr hm)
  within m hm := by
    have hmodule := (lookup_eq_some_iff_mem hdistinct.keys).mpr hm
    have hexports := hdistinct.good m hm
    exact {
      functions := fun x hx => h.function _ l hl _ _ hmodule x.1 x.2
        ((lookup_eq_some_iff_mem hexports.functions).mpr hx)
      vars := fun x hx => h.var _ l hl _ _ hmodule x.1 x.2
        ((lookup_eq_some_iff_mem hexports.vars).mpr hx) }

/-- A library whose exports resolve stubs to their own NIDs has them under these. -/
theorem targetsKeyed_of_resolvesOwn (h : ∀ s, db.ResolvesOwn s) {l : Library}
    (hdistinct : l.Distinct) (hl : db.findLibrary l.nid = some l) : l.TargetsKeyed := by
  intro m hm x hx
  have hmodule := (lookup_eq_some_iff_mem hdistinct.keys).mpr hm
  have hexports := hdistinct.good m hm
  obtain ⟨kind, htarget⟩ : ∃ kind, (exportsFor m.2 kind).lookup x.1 = some x.2 := by
    rcases List.mem_append.mp hx with hx | hx
    · exact ⟨.functionStub, (lookup_eq_some_iff_mem hexports.functions).mpr hx⟩
    · exact ⟨.variableStub, (lookup_eq_some_iff_mem hexports.vars).mpr hx⟩
  -- the stub that asks for this export under the keys
  let s : Stub := { kind, libraryNid := l.nid, moduleNid := m.1, targetNid := x.1 }
  have hresolve : resolve db.lookups s = (attached s l m.2 x.2, none) :=
    resolve_of_found hl hmodule htarget
  obtain ⟨l', m', x', heq, -, hm', hx'⟩ := h s (congrArg Prod.snd hresolve)
  have hattached : attached s l m.2 x.2 = attached s l' m' x' :=
    (congrArg Prod.fst hresolve).symm.trans heq
  cases hattached
  exact ⟨hm', hx'⟩

variable {calls : List Library}

theorem added_of_findLibrary {a : Int} {l : Library}
    (h : (empty.after calls).findLibrary a = some l) : l ∈ empty.added calls ∧ l.nid = a := by
  have hmem : (a, l) ∈ (empty.after calls).libraries := mem_of_lookup h
  rw [libraries_after] at hmem
  obtain ⟨l', hl', heq⟩ := List.mem_map.mp hmem
  cases heq
  exact ⟨hl', rfl⟩

theorem findLibrary_of_added {l : Library} (h : l ∈ empty.added calls) :
    (empty.after calls).findLibrary l.nid = some l := by
  have hempty : empty.keys.Nodup := List.nodup_nil
  refine (lookup_eq_some_iff_mem (nodup_keys_after hempty calls)).mpr ?_
  rw [libraries_after]
  exact List.mem_append_right _ (List.mem_map_of_mem h)

theorem mem_of_added {l : Library} (h : l ∈ empty.added calls) : l ∈ calls := by
  obtain ⟨⟨called, answer⟩, hmem, hadded⟩ := List.mem_filterMap.mp h
  have hcalled : called ∈ calls := (List.of_mem_zip hmem).1
  cases answer with
  | none =>
    cases hadded
    exact hcalled
  | some e => cases hadded

theorem findsOwn_of_keyed (h : ∀ l ∈ empty.added calls, l.Keyed) :
    (empty.after calls).FindsOwn where
  library _ _ hl := (added_of_findLibrary hl).2
  module _ l hl _ m hm := (h l (added_of_findLibrary hl).1).modules (_, m) (mem_of_lookup hm)
  function _ l hl _ m hm _ x hx :=
    ((h l (added_of_findLibrary hl).1).within (_, m) (mem_of_lookup hm)).functions (_, x)
      (mem_of_lookup hx)
  var _ l hl _ m hm _ x hx :=
    ((h l (added_of_findLibrary hl).1).within (_, m) (mem_of_lookup hm)).vars (_, x)
      (mem_of_lookup hx)

theorem resolvesOwn_of_targetsKeyed (h : ∀ l ∈ empty.added calls, l.TargetsKeyed) (s : Stub) :
    (empty.after calls).ResolvesOwn s := by
  intro hmissed
  obtain ⟨l, m, x, hl, hm, hx, hresolved⟩ := found_of_missed hmissed
  obtain ⟨hadded, hlibrary⟩ := added_of_findLibrary hl
  have hexport : (s.targetNid, x) ∈ m.functions ++ m.vars := by
    rw [List.mem_append]
    cases hkind : s.kind with
    | functionStub =>
      rw [hkind] at hx
      exact .inl (mem_of_lookup hx)
    | variableStub =>
      rw [hkind] at hx
      exact .inr (mem_of_lookup hx)
  obtain ⟨hmodule, htarget⟩ := h l hadded _ (mem_of_lookup hm) _ hexport
  exact ⟨l, m, x, hresolved, hlibrary, hmodule, htarget⟩

/-- A database that was read from a descriptor finds the NIDs that it is asked for. -/
theorem findsOwn_of_ofDescriptor {v : Value} {db : NidDatabase} (h : ofDescriptor v = .ok db) :
    db.FindsOwn := by
  obtain ⟨hvalid, rfl⟩ := ofDescriptor_eq_ok_iff.mp h
  have hnid := (describes_databaseOf hvalid).nid_eq
  exact {
    library := fun a l hl => (hnid a l hl).1
    module := fun a l hl b m hm => ((hnid a l hl).2 b m hm).1
    function := fun a l hl b m hm => ((hnid a l hl).2 b m hm).2.1
    var := fun a l hl b m hm => ((hnid a l hl).2 b m hm).2.2 }

/-- How far the entities of a database stand under their own NIDs after some calls. -/
structure KeyedByNid (calls : List Library) : Prop where
  library_nid : ∀ a l, (empty.after calls).findLibrary a = some l → l.nid = a
  finds_iff : (empty.after calls).FindsOwn ↔ ∀ l ∈ empty.added calls, l.Keyed
  resolves_iff : (∀ s, (empty.after calls).ResolvesOwn s) ↔
    ∀ l ∈ empty.added calls, l.TargetsKeyed
  resolves_of_finds : (empty.after calls).FindsOwn → ∀ s, (empty.after calls).ResolvesOwn s

/-- Whatever validated libraries are added, the keys inside them decide what is found. -/
theorem keyedByNid {calls : List Library} (hvalid : ∀ l ∈ calls, l.Validated) :
    KeyedByNid calls := by
  have hadded : ∀ l ∈ empty.added calls,
      l.Distinct ∧ (empty.after calls).findLibrary l.nid = some l := fun l hl =>
    ⟨(hvalid l (mem_of_added hl)).distinct, findLibrary_of_added hl⟩
  have hfinds : (empty.after calls).FindsOwn ↔ ∀ l ∈ empty.added calls, l.Keyed :=
    ⟨fun h l hl => h.keyed (hadded l hl).1 (hadded l hl).2, findsOwn_of_keyed⟩
  exact {
    library_nid := fun a l hl => (added_of_findLibrary hl).2
    finds_iff := hfinds
    resolves_iff := ⟨fun h l hl => targetsKeyed_of_resolvesOwn h (hadded l hl).1 (hadded l hl).2,
      resolvesOwn_of_targetsKeyed⟩
    resolves_of_finds := fun h =>
      resolvesOwn_of_targetsKeyed fun l hl => (hfinds.mp h l hl).targetsKeyed }

/-- The module with the NID 7 stands under the key 5. -/
def misplaced : Library :=
  { name := "SceLibKernel", nid := 1, modules := [(5,
      { name := "SceKernel", nid := 7, functions := [(3, ⟨"sceKernelExit", 3⟩)] })] }

def misplacedFields : List (Text × Value) :=
  [("name", .text "SceLibKernel"), ("nid", .int 1), ("modules", .table [("5", .table
    [("name", .text "SceKernel"), ("nid", .int 7), ("functions", .table [("3", .table
      [("name", .text "sceKernelExit"), ("nid", .int 3)])])])])]

theorem validated_misplaced : misplaced.Validated := ⟨misplacedFields, by rfl⟩

/-- Validation accepts the library, and its module is found under a NID that is not its own. -/
theorem misplaced_found : misplaced.Validated ∧ ¬ (empty.after [misplaced]).FindsOwn ∧
    ¬ ∀ s, (empty.after [misplaced]).ResolvesOwn s := by
  refine ⟨validated_misplaced, fun h => ?_, fun h => ?_⟩
  · have hnid := h.module 1 misplaced rfl 5 _ rfl
    exact absurd hnid (by decide)
  · obtain ⟨l, m, x, hattached, -, hm, -⟩ :=
      h { kind := .functionStub, libraryNid := 1, moduleNid := 5, targetNid := 3 } rfl
    cases hattached
    exact absurd hm (by decide)

theorem keyedByNid_misplaced : (∀ l ∈ [misplaced], l.Validated) ∧ KeyedByNid [misplaced] :=
  have hvalid : ∀ l ∈ [misplaced], l.Validated := by simpa using validated_misplaced
  ⟨hvalid, keyedByNid hvalid⟩

end NidDatabase

end ImportStubs
