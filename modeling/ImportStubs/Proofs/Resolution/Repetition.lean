import ImportStubs.Proofs.Resolution.Visits
import Mathlib.Data.List.Forall2
import Mathlib.Data.List.OfFn
import Mathlib.Data.List.ReduceOption
import Mathlib.Logic.Equiv.Defs

/-!
# Passes one after the other

A pass starts from stubs without entities, whatever they held before: the questions about a stub
never depend on its entities, and all three of them are replaced. So of several passes each one
gives what it would have given alone, and the order of the stubs does not matter to any of them.
-/

namespace ImportStubs.Resolution

/-- Passes over the same stubs one after the other, each with a report of its own. -/
def passes : List ImportDatabase → List Stub → StateM Logger (List Pass)
  | [], _ => pure []
  | db :: rest, stubs => do
    let p ← pass db stubs {}
    return p :: (← passes rest p.stubs)

theorem passes_cons (db : ImportDatabase) (rest : List ImportDatabase) (stubs : List Stub)
    (logger : Logger) :
    ((passes (db :: rest) stubs).run logger).1 =
      ((pass db stubs {}).run logger).1 ::
        ((passes rest ((pass db stubs {}).run logger).1.stubs).run
          ((pass db stubs {}).run logger).2).1 := rfl

variable (db : ImportDatabase)

theorem resolve_cleared (s : Stub) : resolve db s.cleared = resolve db s := rfl

/-- A pass takes no notice of the entities that the stubs have. -/
theorem pass_cleared (stubs : List Stub) (report : Report) (logger : Logger) :
    (pass db (stubs.map Stub.cleared) report).run logger = (pass db stubs report).run logger := by
  have hresolved : resolved db ∘ Stub.cleared = resolved db :=
    funext fun s => congrArg Prod.fst (resolve_cleared db s)
  have hmissed : missed db ∘ Stub.cleared = missed db :=
    funext fun s => congrArg Prod.snd (resolve_cleared db s)
  rw [pass_run, pass_run, List.map_map, List.filterMap_map, List.countP_map, hresolved, hmissed,
    List.length_map]
  rfl

theorem map_cleared_pass (stubs : List Stub) (report : Report) (logger : Logger) :
    ((pass db stubs report).run logger).1.stubs.map Stub.cleared = stubs.map Stub.cleared := by
  rw [pass_run, List.map_map]
  exact List.map_congr_left fun s _ => cleared_resolved db s

theorem pass_congr {stubs others : List Stub}
    (h : others.map Stub.cleared = stubs.map Stub.cleared) (report : Report) (logger : Logger) :
    (pass db others report).run logger = (pass db stubs report).run logger := by
  rw [← pass_cleared, h, pass_cleared]

/-- The result of a pass does not depend on what was logged before it. -/
theorem pass_fst (stubs : List Stub) (report : Report) (logger other : Logger) :
    ((pass db stubs report).run logger).1 = ((pass db stubs report).run other).1 := by
  rw [pass_run, pass_run]

/-- A stub after some pass: its entities aside it is as before, and it has all of them or none. -/
structure Renewed (s after : Stub) : Prop where
  kind_eq : after.kind = s.kind
  address_eq : after.address = s.address
  libraryNid_eq : after.libraryNid = s.libraryNid
  moduleNid_eq : after.moduleNid = s.moduleNid
  targetNid_eq : after.targetNid = s.targetNid
  symbol_eq : after.symbol = s.symbol
  all_or_none : (after.library.isSome ∧ after.module.isSome ∧ after.target.isSome) ∨
    (after.library = none ∧ after.module = none ∧ after.target = none)

theorem renewed_resolved (s : Stub) : Renewed s (resolved db s) := by
  have hvisit := visit_resolve db s
  generalize asked db s = questions, resolved db s = after, missed db s = miss at hvisit
  cases hvisit with
  | noLibrary _ => exact ⟨rfl, rfl, rfl, rfl, rfl, rfl, .inr ⟨rfl, rfl, rfl⟩⟩
  | noModule _ _ => exact ⟨rfl, rfl, rfl, rfl, rfl, rfl, .inr ⟨rfl, rfl, rfl⟩⟩
  | noTarget _ _ _ => exact ⟨rfl, rfl, rfl, rfl, rfl, rfl, .inr ⟨rfl, rfl, rfl⟩⟩
  | found _ _ _ => exact ⟨rfl, rfl, rfl, rfl, rfl, rfl, .inl ⟨rfl, rfl, rfl⟩⟩

/-- A pass as it would be alone, over stubs that have no entities yet. -/
structure Alone (stubs : List Stub) (db : ImportDatabase) (p : Pass) : Prop where
  eq_first : ∀ logger, p = ((pass db (stubs.map Stub.cleared) {}).run logger).1
  renewed : List.Forall₂ Renewed stubs p.stubs

theorem alone_pass {stubs others : List Stub} (h : others.map Stub.cleared = stubs.map Stub.cleared)
    (logger : Logger) : Alone stubs db ((pass db others {}).run logger).1 where
  eq_first other := by
    rw [pass_cleared, pass_congr db h]
    exact pass_fst db stubs {} logger other
  renewed := by
    rw [pass_congr db h, pass_run]
    exact List.forall₂_map_right_iff.mpr (List.forall₂_same.mpr fun s _ => renewed_resolved db s)

/-- Each of several passes goes as if it were the first one. -/
theorem alone_passes (dbs : List ImportDatabase) {stubs others : List Stub}
    (h : others.map Stub.cleared = stubs.map Stub.cleared) (logger : Logger) :
    List.Forall₂ (Alone stubs) dbs ((passes dbs others).run logger).1 := by
  induction dbs generalizing others logger with
  | nil => exact .nil
  | cons db rest ih =>
    rw [passes_cons]
    exact .cons (alone_pass db h logger) (ih ((map_cleared_pass db others {} logger).trans h) _)

theorem reduceOption_ofFn {α β : Type} {n : ℕ} (f : α → Option β) (xs : Fin n → α) :
    (List.ofFn xs).filterMap f = (List.ofFn (f ∘ xs)).reduceOption := by
  rw [List.reduceOption, ← List.map_ofFn, List.filterMap_map]
  rfl

/-- Whatever order the stubs have, each of them ends as it does and has the miss that it has. -/
theorem pass_ofFn {n : ℕ} (stubs : Fin n → Stub) (logger : Logger) :
    ((pass db (List.ofFn stubs) {}).run logger).1.stubs = List.ofFn (resolved db ∘ stubs) ∧
      ((pass db (List.ofFn stubs) {}).run logger).1.report.unresolved =
        (List.ofFn (missed db ∘ stubs)).reduceOption := by
  rw [pass_run, ← reduceOption_ofFn, ← List.map_ofFn]
  exact ⟨rfl, rfl⟩

/-- Each of several passes over the same stubs goes as if it were the first one, and every stub has
its own entities and its own miss in it, wherever among the others it stands. -/
theorem passes_independent (dbs : List ImportDatabase) (stubs : List Stub) (logger : Logger) :
    List.Forall₂ (Alone stubs) dbs ((passes dbs stubs).run logger).1 ∧
      ∀ db : ImportDatabase,
        ∃ (after : Fin stubs.length → Stub) (misses : Fin stubs.length → Option Miss),
        ((pass db stubs {}).run logger).1.stubs = List.ofFn after ∧
        ((pass db stubs {}).run logger).1.report.unresolved = (List.ofFn misses).reduceOption ∧
        ∀ order : Equiv.Perm (Fin stubs.length),
          ((pass db (List.ofFn (stubs.get ∘ order)) {}).run logger).1.stubs =
            List.ofFn (after ∘ order) ∧
          ((pass db (List.ofFn (stubs.get ∘ order)) {}).run logger).1.report.unresolved =
            (List.ofFn (misses ∘ order)).reduceOption := by
  refine ⟨alone_passes dbs rfl logger, fun db => ?_⟩
  have hwhole := pass_ofFn db stubs.get logger
  rw [List.ofFn_get] at hwhole
  exact ⟨resolved db ∘ stubs.get, missed db ∘ stubs.get, hwhole.1, hwhole.2,
    fun order => pass_ofFn db (stubs.get ∘ order) logger⟩

end ImportStubs.Resolution
