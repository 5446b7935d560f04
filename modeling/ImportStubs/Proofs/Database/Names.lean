import ImportStubs.Proofs.Database.Descriptor
import ImportStubs.Proofs.Json.Regular
import ImportStubs.Resolution

/-!
# The names of a database

A database that was read from a file has its names from the members of a document. So no name holds
a surrogate pair, and neither does the name of anything that a look-up finds.
-/

namespace ImportStubs

/-- The name holds no surrogate pair. -/
def Export.Joined (x : Export) : Prop := Json.joinPairs x.name = x.name

/-- Neither the name of the module nor those of its exports hold a surrogate pair. -/
structure Module.Joined (m : Module) : Prop where
  name : Json.joinPairs m.name = m.name
  functions : ∀ x ∈ m.functions, x.2.Joined
  vars : ∀ x ∈ m.vars, x.2.Joined

structure Library.Joined (l : Library) : Prop where
  name : Json.joinPairs l.name = l.name
  modules : ∀ m ∈ l.modules, m.2.Joined

def Entity.Joined : Entity → Prop
  | library l => l.Joined
  | module m => m.Joined
  | target x => x.Joined
  | value _ => False

theorem Entity.Joined.name {e : Entity} (h : e.Joined) :
    ∀ name ∈ e.name?, Json.joinPairs name = name := by
  cases e with
  | library l =>
    rintro name ⟨⟩
    exact Library.Joined.name h
  | module m =>
    rintro name ⟨⟩
    exact Module.Joined.name h
  | target x =>
    rintro name ⟨⟩
    exact h
  | value v => exact h.elim

namespace NidDatabase

/-- The names of all entities. -/
def Joined (db : NidDatabase) : Prop := ∀ l ∈ db.libraries, l.2.Joined

theorem mem_of_lookup {α : Type} {entries : List (Int × α)} {nid : Int} {x : α}
    (h : entries.lookup nid = some x) : (nid, x) ∈ entries := by
  obtain ⟨before, after, rfl, -⟩ := List.lookup_eq_some_iff.mp h
  simp

variable {db : NidDatabase}

theorem Joined.findLibrary (h : db.Joined) {nid : Int} {e : Entity}
    (hfound : db.lookups.findLibrary nid = some e) : e.Joined := by
  obtain ⟨l, hl, rfl⟩ := Option.map_eq_some_iff.mp hfound
  exact h _ (mem_of_lookup hl)

theorem joined_findModule {library e : Entity} (h : library.Joined) {nid : Int}
    (hfound : db.lookups.findModule library nid = some e) : e.Joined := by
  cases library with
  | library l =>
    obtain ⟨m, hm, rfl⟩ := Option.map_eq_some_iff.mp hfound
    exact Library.Joined.modules h _ (mem_of_lookup hm)
  | _ => cases hfound

theorem joined_findTarget {kind : StubKind} {module e : Entity} (h : module.Joined) {nid : Int}
    (hfound : Resolution.findTarget db.lookups kind module nid = some e) : e.Joined := by
  cases module with
  | module m =>
    cases kind with
    | functionStub =>
      obtain ⟨x, hx, rfl⟩ := Option.map_eq_some_iff.mp hfound
      exact Module.Joined.functions h _ (mem_of_lookup hx)
    | variableStub =>
      obtain ⟨x, hx, rfl⟩ := Option.map_eq_some_iff.mp hfound
      exact Module.Joined.vars h _ (mem_of_lookup hx)
  | _ => cases kind <;> cases hfound

/-- A target is a function or a variable of the database. -/
theorem exists_target {kind : StubKind} {module e : Entity} {nid : Int}
    (hfound : Resolution.findTarget db.lookups kind module nid = some e) :
    ∃ x, e = .target x := by
  cases module with
  | module m =>
    cases kind <;>
    · obtain ⟨x, -, rfl⟩ := Option.map_eq_some_iff.mp hfound
      exact ⟨x, rfl⟩
  | _ => cases kind <;> cases hfound

end NidDatabase

namespace Descriptor

open NidDatabase
open Json (Regular)

theorem regular_entry {v : Value} (h : Regular True v) :
    ∀ e ∈ members v, Json.joinPairs e.1 = e.1 ∧ Regular True e.2 := by
  cases h with
  | table _ hjoined hvalues => exact fun e he => ⟨hjoined e he, hvalues e he⟩
  | _ => simp [members]

theorem regular_field {v : Value} (h : Regular True v) (name : String) :
    Regular True (field name (.table []) v) := by
  rw [field, memberD, Value.member?]
  cases hfound : (members v).lookup (Text.ofString name) with
  | none => exact .table List.nodup_nil (by simp) (by simp)
  | some w =>
    obtain ⟨before, after, heq, -⟩ := List.lookup_eq_some_iff.mp hfound
    exact (regular_entry h (Text.ofString name, w) (by simp [heq])).2

theorem joined_exportsOf {v : Value} (h : Regular True v) : ∀ x ∈ exportsOf v, x.2.Joined := by
  rw [exportsOf, tabulate, List.forall_mem_map]
  exact fun e he => (regular_entry h e he).1

theorem joined_moduleOf {e : Text × Value} (hname : Json.joinPairs e.1 = e.1)
    (h : Regular True e.2) : (moduleOf e).Joined where
  name := hname
  functions := joined_exportsOf (regular_field h "functions")
  vars := joined_exportsOf (regular_field h "variables")

theorem joined_libraryOf {e : Text × Value} (hname : Json.joinPairs e.1 = e.1)
    (h : Regular True e.2) : (libraryOf e).Joined where
  name := hname
  modules := by
    rw [libraryOf, modulesOf, tabulate, List.forall_mem_map]
    intro module hmodule
    obtain ⟨hjoined, hvalue⟩ := regular_entry (regular_field h "modules") module hmodule
    exact joined_moduleOf hjoined hvalue

theorem joined_databaseOf {v : Value} (h : Regular True v) : (databaseOf v).Joined := by
  rw [databaseOf, tabulate, NidDatabase.Joined, List.forall_mem_map]
  intro library hlibrary
  obtain ⟨hjoined, hvalue⟩ := regular_entry h library hlibrary
  exact joined_libraryOf hjoined hvalue

end Descriptor

theorem NidDatabase.joined_of_ofSource {path : Text} {source : Source} {db : NidDatabase}
    (h : ofSource path source = .ok db) : db.Joined := by
  unfold NidDatabase.ofSource at h
  obtain ⟨_, _, h⟩ := bind_eq_ok_iff.mp h
  obtain ⟨bytes, _, h⟩ := bind_eq_ok_iff.mp h
  split at h
  · cases h
  next cs _ =>
    split at h
    next v hread =>
      obtain ⟨-, rfl⟩ := Descriptor.ofDescriptor_eq_ok_iff.mp h
      exact Descriptor.joined_databaseOf (Json.regular_read hread)
    · cases h
    · cases h

end ImportStubs
