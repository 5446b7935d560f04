import ImportStubs.Proofs.Resolution.Visits

/-!
# How the outputs of a pass agree

The stubs after a pass, its report, its flag and its warnings tell the same: a stub is resolved
exactly if it has no miss, the misses stand in the report in the order of the stubs, and each of
them is logged under its message. A message is no template, whatever the name of the symbol is.
-/

namespace ImportStubs

theorem Logger.warning_run (message : Text) (logger : Logger) :
    ((Logger.warning message).run logger).2 =
      if logger.isEnabled .warning then
        { logger with entries := logger.entries ++
            [{ level := .warning, operation := logger.operationName, message := .text message }] }
      else logger := rfl

/-- A log call without arguments logs its template as it stands. -/
theorem LogCall.apply_warning (message : Text) (logger : Logger) :
    LogCall.apply { level := .warning, template := message } logger =
      .ok ((Logger.warning message).run logger).2 := by
  unfold LogCall.apply
  cases henabled : logger.isEnabled .warning with
  | false =>
    rw [Logger.warning_run, henabled]
    simp
  | true =>
    simp only [Value.member?, Template.format, List.any_nil, List.lookup_nil, Option.any_none,
      Bool.not_true, Bool.false_eq_true, if_false]
    rfl

namespace Resolution

def warningOf (logger : Logger) (miss : Miss) : LogEntry :=
  { level := .warning, operation := logger.operationName, message := .text miss.message }

theorem warn_some {logger : Logger} (henabled : logger.isEnabled .warning = true) (miss : Miss) :
    warn (some miss) logger =
      { logger with entries := logger.entries ++ [warningOf logger miss] } := by
  rw [warn, Logger.warning_run, if_pos henabled, warningOf]

/-- Neither the threshold nor the operation changes by a warning, so all of them look alike. -/
theorem warnAll_eq {logger : Logger} (henabled : logger.isEnabled .warning = true)
    (misses : List Miss) :
    warnAll misses logger =
      { logger with entries := logger.entries ++ misses.map (warningOf logger) } := by
  induction misses generalizing logger with
  | nil => simp [warnAll]
  | cons miss rest ih =>
    have hstill : (warn (some miss) logger).isEnabled .warning = true := by
      rwa [warn_some henabled]
    refine (ih hstill).trans ?_
    rw [warn_some henabled, List.append_assoc]
    rfl

/-- The warnings are log calls with the messages as their templates. -/
theorem foldlM_apply_warning (misses : List Miss) (logger : Logger) :
    misses.foldlM
        (fun logger miss => LogCall.apply { level := .warning, template := miss.message } logger)
        logger = .ok (warnAll misses logger) := by
  induction misses generalizing logger with
  | nil => rfl
  | cons miss rest ih =>
    rw [List.foldlM_cons, LogCall.apply_warning]
    exact ih _

theorem Visit.isResolved_iff {db : ImportDatabase} {s after : Stub} {questions : List Question}
    {miss : Option Miss} (h : Visit db s questions after miss) :
    after.isResolved = true ↔ miss = none := by
  cases h <;> simp [Stub.isResolved]

theorem isResolved_resolved (db : ImportDatabase) (s : Stub) :
    (resolved db s).isResolved = true ↔ missed db s = none :=
  (visit_resolve db s).isResolved_iff

theorem countP_add_length_filterMap {α β : Type} (f : α → Option β) (xs : List α) :
    (xs.countP fun x => (f x).isNone) + (xs.filterMap f).length = xs.length := by
  induction xs with
  | nil => rfl
  | cons x xs ih =>
    cases hx : f x with
    | none => simp [hx]; omega
    | some y => simp [hx]; omega

/-- What a pass over stubs leaves that begins with an empty report. -/
structure Outcome (db : ImportDatabase) (stubs : List Stub) (logger : Logger) (p : Pass)
    (after : Logger) : Prop where
  /-- The stubs are visited in order, each up to the first question without an answer. -/
  recorded_eq : ((pass (Lookups.recorded db) stubs {}).run logger).run [] =
    pure ((p, after), stubs.flatMap (asked db))
  visits : ∀ s ∈ stubs, Visit db s (asked db s) (resolved db s) (missed db s)
  stubs_eq : p.stubs = stubs.map (resolved db)
  isResolved_iff : ∀ s ∈ stubs, (resolved db s).isResolved = true ↔ missed db s = none
  total_eq : p.report.total = stubs.length
  resolved_eq : p.report.resolved = p.stubs.countP (·.isResolved)
  sum_eq : p.report.resolved + p.report.unresolved.length = p.report.total
  unresolved_eq : p.report.unresolved = stubs.filterMap (missed db)
  foundAll_iff : p.foundAll = true ↔ ∀ s ∈ p.stubs, s.isResolved = true
  allResolved_eq : p.report.allResolved = p.foundAll
  /-- One warning for each miss, in the same order and with the same text. -/
  entries_eq : after =
    { logger with entries := logger.entries ++ p.report.unresolved.map fun miss =>
        { level := .warning, operation := logger.operationName, message := .text miss.message } }
  /-- The messages are handed over as templates, without arguments. -/
  calls_eq : p.report.unresolved.foldlM
      (fun logger miss => LogCall.apply { level := .warning, template := miss.message } logger)
      logger = .ok after

/-- A pass asks, resolves, counts, reports and warns by the answers for each stub alone. -/
theorem pass_outcome (db : ImportDatabase) (stubs : List Stub) {logger : Logger}
    (henabled : logger.isEnabled .warning = true) :
    Outcome db stubs logger ((pass db stubs {}).run logger).1
      ((pass db stubs {}).run logger).2 := by
  have hcount : (stubs.map (resolved db)).countP (·.isResolved) =
      stubs.countP fun s => (missed db s).isNone := by
    rw [List.countP_map]
    refine List.countP_congr fun s _ => ?_
    simp [isResolved_resolved]
  have hrecorded := pass_recorded db stubs {} logger []
  rw [pass_run] at hrecorded ⊢
  exact {
    recorded_eq := hrecorded
    visits := fun s _ => visit_resolve db s
    stubs_eq := rfl
    isResolved_iff := fun s _ => isResolved_resolved db s
    total_eq := Nat.zero_add _
    resolved_eq := (Nat.zero_add _).trans hcount.symm
    sum_eq := by
      dsimp only
      rw [Nat.zero_add, Nat.zero_add, List.nil_append, countP_add_length_filterMap]
    unresolved_eq := rfl
    foundAll_iff := by
      simp [isResolved_resolved]
    allResolved_eq := rfl
    entries_eq := warnAll_eq henabled _
    calls_eq := foldlM_apply_warning _ logger }

def oneFunction : NidDatabase :=
  { libraries := [(1, { name := "SceLibKernel", nid := 1, modules := [(2,
      { name := "SceLibKernel", nid := 2, functions := [(3, ⟨"sceKernelExit", 3⟩)] })] })] }

/-- A stub of the function, a variable under its NID, and a stub of another library. -/
def threeStubs : List Stub :=
  [{ kind := .functionStub, libraryNid := 1, moduleNid := 2, targetNid := 3 },
    { kind := .variableStub, libraryNid := 1, moduleNid := 2, targetNid := 3,
      symbol := some { name := "100%s\x7b\x7d" } },
    { kind := .functionStub, libraryNid := 7, library := some (.value .null) }]

def resolverLogger : Logger := { tool := "resolver", threshold := 30 }

/-- One stub is resolved, and the two others fail at different look-ups. -/
theorem pass_outcome_threeStubs :
    resolverLogger.isEnabled .warning = true ∧
      Outcome oneFunction.lookups threeStubs resolverLogger
        ((pass oneFunction.lookups threeStubs {}).run resolverLogger).1
        ((pass oneFunction.lookups threeStubs {}).run resolverLogger).2 ∧
      (threeStubs.filterMap (missed oneFunction.lookups)).map Miss.message =
        [Text.ofString "Unable to find variable with NID 0x00000003 for symbol 100%s\x7b\x7d",
          Text.ofString
            "Unable to find library with NID 0x00000007 for function symbol (unreferenced stub)"] :=
  ⟨by decide, pass_outcome oneFunction.lookups threeStubs (by decide), by decide +kernel⟩

end Resolution
end ImportStubs
