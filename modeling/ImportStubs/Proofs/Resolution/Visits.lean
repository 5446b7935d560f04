import ImportStubs.Log.Call
import ImportStubs.Resolution
import Mathlib.Tactic.Common

/-!
# What a pass asks and leaves

A pass treats every stub on its own: the questions about it, the entities that it gets and its miss
depend on the stub and on the answers only. So the stubs, the report and the log of a pass are lists
in the order of the stubs, and they agree with one another.
-/

namespace ImportStubs

/-- A question that a resolution puts to a database. -/
inductive Question where
  | library (nid : Int)
  | module (library : Entity) (nid : Int)
  /-- The question for a function or for a variable. -/
  | target (kind : StubKind) (module : Entity) (nid : Int)

/-- Look-ups with the same answers that write down the questions in the order of the asking. -/
def Lookups.recorded (db : ImportDatabase) : Lookups (StateM (List Question)) where
  findLibrary nid := do
    modify (· ++ [.library nid])
    return db.findLibrary nid
  findModule library nid := do
    modify (· ++ [.module library nid])
    return db.findModule library nid
  findFunction module nid := do
    modify (· ++ [.target .functionStub module nid])
    return db.findFunction module nid
  findVariable module nid := do
    modify (· ++ [.target .variableStub module nid])
    return db.findVariable module nid

namespace Resolution

def resolved (db : ImportDatabase) (s : Stub) : Stub := (resolve db s).1

def missed (db : ImportDatabase) (s : Stub) : Option Miss := (resolve db s).2

/-- What is asked about a stub: each answer leads to the next question. -/
def asked (db : ImportDatabase) (s : Stub) : List Question :=
  .library s.libraryNid :: (db.findLibrary s.libraryNid).elim [] fun library =>
    .module library s.moduleNid :: (db.findModule library s.moduleNid).elim [] fun module =>
      [.target s.kind module s.targetNid]

/-- The visit of a stub: the questions up to the first one without an answer, the stub afterwards,
and its miss. -/
inductive Visit (db : ImportDatabase) (s : Stub) : List Question → Stub → Option Miss → Prop
  | noLibrary (library_eq : db.findLibrary s.libraryNid = none) :
      Visit db s [.library s.libraryNid] { s with library := none, module := none, target := none }
        (some { kind := s.kind, address := s.address, stage := .library, nid := s.libraryNid,
                symbol := s.displayName })
  | noModule {library : Entity} (library_eq : db.findLibrary s.libraryNid = some library)
      (module_eq : db.findModule library s.moduleNid = none) :
      Visit db s [.library s.libraryNid, .module library s.moduleNid]
        { s with library := none, module := none, target := none }
        (some { kind := s.kind, address := s.address, stage := .module, nid := s.moduleNid,
                symbol := s.displayName })
  | noTarget {library module : Entity} (library_eq : db.findLibrary s.libraryNid = some library)
      (module_eq : db.findModule library s.moduleNid = some module)
      (target_eq : findTarget db s.kind module s.targetNid = none) :
      Visit db s
        [.library s.libraryNid, .module library s.moduleNid, .target s.kind module s.targetNid]
        { s with library := none, module := none, target := none }
        (some { kind := s.kind, address := s.address, stage := .target, nid := s.targetNid,
                symbol := s.displayName })
  | found {library module target : Entity}
      (library_eq : db.findLibrary s.libraryNid = some library)
      (module_eq : db.findModule library s.moduleNid = some module)
      (target_eq : findTarget db s.kind module s.targetNid = some target) :
      Visit db s
        [.library s.libraryNid, .module library s.moduleNid, .target s.kind module s.targetNid]
        { s with library := some library, module := some module, target := some target } none

variable (db : ImportDatabase) (s : Stub)

/-- Without an effect the answers are just taken one after the other. -/
theorem lookUp_eq : lookUp db s =
    match db.findLibrary s.libraryNid with
    | none => .error (missAt s .library s.libraryNid)
    | some library =>
      match db.findModule library s.moduleNid with
      | none => .error (missAt s .module s.moduleNid)
      | some module =>
        match findTarget db s.kind module s.targetNid with
        | none => .error (missAt s .target s.targetNid)
        | some target => .ok (library, module, target) := rfl

theorem resolve_eq : resolve db s =
    match lookUp db s with
    | .ok (library, module, target) =>
      ({ s with library := some library, module := some module, target := some target }, none)
    | .error miss => (s.cleared, some miss) := rfl

theorem visit_resolve : Visit db s (asked db s) (resolved db s) (missed db s) := by
  unfold asked resolved missed
  rw [resolve_eq, lookUp_eq]
  cases hlibrary : db.findLibrary s.libraryNid with
  | none => exact .noLibrary hlibrary
  | some library =>
    dsimp only [Option.elim_some]
    cases hmodule : db.findModule library s.moduleNid with
    | none => exact .noModule hlibrary hmodule
    | some module =>
      dsimp only [Option.elim_some]
      cases htarget : findTarget db s.kind module s.targetNid with
      | none => exact .noTarget hlibrary hmodule htarget
      | some target => exact .found hlibrary hmodule htarget

/-- A visit changes the entities only. -/
theorem cleared_resolved (s : Stub) : (resolved db s).cleared = s.cleared := by
  have hvisit := visit_resolve db s
  generalize asked db s = questions, resolved db s = after, missed db s = miss at hvisit
  cases hvisit <;> rfl

@[simp] theorem findLibrary_recorded (nid : Int) (before : List Question) :
    ((Lookups.recorded db).findLibrary nid).run before =
      pure (db.findLibrary nid, before ++ [.library nid]) := rfl

@[simp] theorem findModule_recorded (library : Entity) (nid : Int) (before : List Question) :
    ((Lookups.recorded db).findModule library nid).run before =
      pure (db.findModule library nid, before ++ [.module library nid]) := rfl

@[simp] theorem findTarget_recorded (kind : StubKind) (module : Entity) (nid : Int)
    (before : List Question) :
    (findTarget (Lookups.recorded db) kind module nid).run before =
      pure (findTarget db kind module nid, before ++ [.target kind module nid]) := by
  cases kind <;> rfl

/-- A recorded resolution goes as the plain one and writes down what is asked. -/
theorem resolve_recorded (before : List Question) :
    (resolve (Lookups.recorded db) s).run before =
      pure ((resolved db s, missed db s), before ++ asked db s) := by
  rw [resolved, missed, resolve_eq, lookUp_eq]
  unfold resolve lookUp asked
  cases hlibrary : db.findLibrary s.libraryNid with
  | none => simp [hlibrary]
  | some library =>
    cases hmodule : db.findModule library s.moduleNid with
    | none => simp [hlibrary, hmodule]
    | some module =>
      cases htarget : findTarget db s.kind module s.targetNid <;>
        simp [hlibrary, hmodule, htarget]

variable (stubs : List Stub) (report : Report) (logger : Logger)

theorem pass_cons (rest : List Stub) :
    (pass db (s :: rest) report).run logger =
      let next := (pass db rest (count report (missed db s))).run (warn (missed db s) logger)
      ({ next.1 with
          stubs := resolved db s :: next.1.stubs
          foundAll := (missed db s).isNone && next.1.foundAll }, next.2) := rfl

def warnAll (misses : List Miss) (logger : Logger) : Logger :=
  misses.foldl (fun logger miss => warn (some miss) logger) logger

/-- A pass handles every stub on its own and puts together what comes of them. -/
theorem pass_run :
    (pass db stubs report).run logger =
      ({ stubs := stubs.map (resolved db)
         report :=
          { total := report.total + stubs.length
            resolved := report.resolved + stubs.countP fun s => (missed db s).isNone
            unresolved := report.unresolved ++ stubs.filterMap (missed db) }
         foundAll := (stubs.filterMap (missed db)).isEmpty },
        warnAll (stubs.filterMap (missed db)) logger) := by
  induction stubs generalizing report logger with
  | nil =>
    change (Pass.mk [] report true, logger) = _
    simp [warnAll]
  | cons s rest ih =>
    rw [pass_cons, ih]
    cases hmiss : missed db s with
    | none => simp [hmiss, count, warn, warnAll, Nat.add_assoc, Nat.add_comm 1]
    | some miss => simp [hmiss, count, warnAll, Nat.add_assoc, Nat.add_comm 1]

/-- A recorded pass goes as the plain one; the questions stand in the order of the stubs. -/
theorem pass_recorded (before : List Question) :
    ((pass (Lookups.recorded db) stubs report).run logger).run before =
      pure ((pass db stubs report).run logger, before ++ stubs.flatMap (asked db)) := by
  induction stubs generalizing report logger before with
  | nil =>
    rw [List.flatMap_nil, List.append_nil]
    rfl
  | cons s rest ih =>
    rw [pass_cons, pass]
    simp [resolve_recorded, ih]

end Resolution
end ImportStubs
