import ImportStubs.Proofs.Log.Scopes
import ImportStubs.Proofs.Resolution.Visits
import ImportStubs.Session
import Mathlib.Tactic.Common

/-!
# Passes over the stubs of a session

A pass never fails on a session that is not released, and it changes nothing but the entities of the
stubs. So does any sequence of passes, each against a database of its own.
-/

namespace ImportStubs

namespace Resolution

/-- The report of a pass that continues another one. -/
def continued (db : ImportDatabase) (report : Report) (stubs : List Stub) : Report where
  total := report.total + stubs.length
  resolved := report.resolved + stubs.countP fun s => (missed db s).isNone
  unresolved := report.unresolved ++ stubs.filterMap (missed db)

/-- The report of a pass. -/
def reportOn (db : ImportDatabase) (stubs : List Stub) : Report := continued db {} stubs

theorem continued_append (db : ImportDatabase) (report : Report) (stubs rest : List Stub) :
    continued db report (stubs ++ rest) = continued db (continued db report stubs) rest := by
  simp [continued, Nat.add_assoc]

theorem warnAll_append (misses later : List Miss) (logger : Logger) :
    warnAll (misses ++ later) logger = warnAll later (warnAll misses logger) :=
  List.foldl_append

end Resolution

namespace Session

/-- A session after a pass over the stubs of a kind. -/
def resolvedKind (db : ImportDatabase) (kind : StubKind) (s : Session) : Session :=
  { s with stubs := s.stubs.set kind ((s.stubs.get kind).map (Resolution.resolved db)) }

/-- A session after a pass over all stubs. -/
def resolved (db : ImportDatabase) (s : Session) : Session :=
  (s.resolvedKind db .functionStub).resolvedKind db .variableStub

theorem resolveKind_run {s : Session} (hreleased : s.released = false) (db : ImportDatabase)
    (kind : StubKind) (report : Report) (logger : Logger) :
    (resolveKind db kind report s).run logger =
      (.ok (s.resolvedKind db kind, Resolution.continued db report (s.stubs.get kind)),
        Resolution.warnAll ((s.stubs.get kind).filterMap (Resolution.missed db)) logger) := by
  have hstubs : s.stubsOf kind = .ok (s.stubs.get kind) := by
    rw [stubsOf, access, hreleased]
    rfl
  unfold resolveKind
  rw [hstubs]
  dsimp only
  rw [Logger.run_bind, Resolution.pass_run]
  rfl

/-- The logger after the last note of a resolution. -/
def resolutionNoted (report : Report) (logger : Logger) : Logger :=
  ((Logger.debug ("Resolved " ++ Text.ofNat report.resolved ++ " of " ++ Text.ofNat report.total ++
    " stubs")).run logger).2

/-- A resolution reports on the function stubs and then on the variable stubs. Under its operation
it warns of every miss and takes a note at the end. -/
theorem resolve_eq {s : Session} (hreleased : s.released = false) (db : ImportDatabase)
    (logger : Logger) :
    (resolve db s).run logger =
      (.ok (s.resolved db, Resolution.reportOn db (s.stubs.functions ++ s.stubs.vars)),
        { resolutionNoted (Resolution.reportOn db (s.stubs.functions ++ s.stubs.vars))
            (Resolution.warnAll
              ((s.stubs.functions ++ s.stubs.vars).filterMap (Resolution.missed db))
              { logger with operation := some "resolve_imports" }) with
          operation := logger.operation }) := by
  have hkept : (s.resolvedKind db .functionStub).released = false := hreleased
  rw [resolve, Logger.withOperation_run, Logger.run_bind, resolveKind_run hreleased]
  dsimp only
  rw [Logger.run_bind, resolveKind_run hkept, Resolution.reportOn, Resolution.continued_append,
    List.filterMap_append, Resolution.warnAll_append]
  rfl

theorem resolve_reports {s : Session} (hreleased : s.released = false) (db : ImportDatabase)
    (logger : Logger) :
    ((resolve db s).run logger).1 =
      .ok (s.resolved db, Resolution.reportOn db (s.stubs.functions ++ s.stubs.vars)) :=
  congrArg Prod.fst (resolve_eq hreleased db logger)

theorem resolve_run {s : Session} (hreleased : s.released = false) (db : ImportDatabase)
    (logger : Logger) :
    ∃ report, ((resolve db s).run logger).1 = .ok (s.resolved db, report) :=
  ⟨_, resolve_reports hreleased db logger⟩

/-- Sessions that differ in the entities of their stubs only. -/
structure Keeps (s t : Session) : Prop where
  image_eq : t.image = s.image
  released_eq : t.released = s.released
  stubSections_eq : t.stubSections = s.stubSections
  symbols_eq : t.symbols = s.symbols
  cleared_eq : ∀ kind, (t.stubs.get kind).map Stub.cleared = (s.stubs.get kind).map Stub.cleared

/-- The sessions that passes reach. -/
inductive Passes (s : Session) : Session → Prop
  | start : Passes s s
  | pass {t u : Session} {db : ImportDatabase} {report : Report} {logger logger' : Logger} :
      Passes s t → (resolve db t).run logger = (.ok (u, report), logger') → Passes s u

theorem keeps_resolvedKind (db : ImportDatabase) (kind : StubKind) (s : Session) :
    Keeps s (s.resolvedKind db kind) := by
  refine ⟨rfl, rfl, rfl, rfl, fun other => ?_⟩
  rw [resolvedKind, PerKind.get_set]
  by_cases hother : other = kind
  · subst hother
    rw [if_pos rfl, List.map_map]
    exact List.map_congr_left fun stub _ => Resolution.cleared_resolved db stub
  · rw [if_neg hother]

theorem Keeps.trans {s t u : Session} (h : Keeps s t) (hnext : Keeps t u) : Keeps s u :=
  ⟨hnext.image_eq.trans h.image_eq, hnext.released_eq.trans h.released_eq,
    hnext.stubSections_eq.trans h.stubSections_eq, hnext.symbols_eq.trans h.symbols_eq,
    fun kind => (hnext.cleared_eq kind).trans (h.cleared_eq kind)⟩

theorem Keeps.symm {s t : Session} (h : Keeps s t) : Keeps t s :=
  ⟨h.image_eq.symm, h.released_eq.symm, h.stubSections_eq.symm, h.symbols_eq.symm,
    fun kind => (h.cleared_eq kind).symm⟩

/-- At every position stands a stub that differs in its entities only. -/
theorem Keeps.getElem? {s t : Session} (h : Keeps s t) {kind : StubKind} {p : ℕ} {stub : Stub}
    (hget : (s.stubs.get kind)[p]? = some stub) :
    ∃ other, (t.stubs.get kind)[p]? = some other ∧ other.kind = stub.kind ∧
      other.address = stub.address ∧ other.symbol = stub.symbol := by
  have hcleared := congrArg (·[p]?) (h.cleared_eq kind)
  simp only [List.getElem?_map, hget, Option.map_some, Option.map_eq_some_iff] at hcleared
  obtain ⟨other, hother, heq⟩ := hcleared
  exact ⟨other, hother, show other.cleared.kind = stub.cleared.kind by rw [heq],
    show other.cleared.address = stub.cleared.address by rw [heq],
    show other.cleared.symbol = stub.cleared.symbol by rw [heq]⟩

theorem keeps_resolved (db : ImportDatabase) (s : Session) : Keeps s (s.resolved db) :=
  (keeps_resolvedKind db .functionStub s).trans (keeps_resolvedKind db .variableStub _)

theorem Passes.keeps {s t : Session} (h : Passes s t) (hreleased : s.released = false) :
    Keeps s t := by
  induction h with
  | start => exact ⟨rfl, rfl, rfl, rfl, fun _ => rfl⟩
  | @pass t u db report logger logger' _ hrun ih =>
    have hresolved := resolve_reports (ih.released_eq.trans hreleased) db logger
    rw [hrun] at hresolved
    cases hresolved
    exact ih.trans (keeps_resolved db t)

end Session
end ImportStubs
