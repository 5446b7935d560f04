import ImportStubs.Proofs.Resolution.Outcome
import ImportStubs.Proofs.Session.Passes
import ImportStubs.Proofs.Session.Steady

/-!
# Operations of a session

The notes of an assembly and its time are logged under the operation of the load, the end of the
load under the operation around it, and whatever a resolution logs under its own. Neither leaves its
operation behind, however it ends.
-/

namespace ImportStubs

/-- A note under an operation, if the logger keeps notes. -/
def Logger.note (logger : Logger) (operation message : Text) : List LogEntry :=
  logger.keep { level := .debug, operation, message := .text message }

theorem Logger.debug_run (message : Text) (logger : Logger) :
    (Logger.debug message).run logger =
      ((), logger.extended (logger.note logger.operationName message)) :=
  Logger.record_run logger .debug (.text message) [] false

namespace Session

open Logger (note)

theorem notedAll_eq (messages : List Text) (logger : Logger) :
    notedAll messages logger =
      logger.extended (messages.flatMap (logger.note logger.operationName)) := by
  induction messages generalizing logger with
  | nil => simp [notedAll]
  | cons message messages ih =>
    have hfirst : noted message logger =
        logger.extended (logger.note logger.operationName message) := by
      rw [noted, Logger.debug_run]
    calc notedAll (message :: messages) logger
        = notedAll messages (logger.extended (logger.note logger.operationName message)) := by
          rw [← hfirst]
          rfl
      _ = logger.extended ((message :: messages).flatMap (logger.note logger.operationName)) := by
          rw [ih, Logger.extended_extended, List.flatMap_cons]
          rfl

/-- The last note of a load that ended in some way. -/
def closing? (path : Text) : Except Failure Session → Option Text
  | .ok s => some ("Loaded " ++ s.literal)
  | .error ⟨.load e, _⟩ =>
    some ("Load of " ++ path ++ " failed [" ++ Text.ofString e.tag ++ "]: " ++ e.message)
  | .error _ => none

/-- What a load leaves in the log. If the image was opened, there are the notes of the steps and
then the time, all under the operation of the load. The last note is under the operation around
it. -/
def loadEntries (logger : Logger) (path : Text) (opened : Bool) (steps : List Text)
    (result : Except Failure Session) : List LogEntry :=
  (if opened then
      steps.flatMap (logger.note "load") ++ logger.keep
        { level := .debug, operation := "load", message := .duration ("load " ++ path) }
    else []) ++
    (closing? path result).toList.flatMap (logger.note logger.operationName)

theorem reportFailure_log (path : Text) (failure : Failure) (logger : Logger) :
    ((reportFailure path failure).run logger).2 =
      logger.extended
        ((closing? path (.error ((reportFailure path failure).run logger).1)).toList.flatMap
          (logger.note logger.operationName)) := by
  obtain ⟨error, image⟩ := failure
  cases error with
  | load e =>
    unfold reportFailure
    rw [Logger.run_bind, Logger.debug_run]
    exact congrArg logger.extended (List.flatMap_singleton _ _).symm
  | _ => exact (Logger.extended_nil logger).symm

theorem finish_log (path : Text) (result : Except ReadError Unit) (a : Assembly) (logger : Logger) :
    ((finish path result a).run logger).2 =
      logger.extended ((closing? path ((finish path result a).run logger).1).toList.flatMap
        (logger.note logger.operationName)) := by
  cases result with
  | error error => exact reportFailure_log path ⟨error, some a.image.close⟩ logger
  | ok _ =>
    unfold finish
    rw [Logger.run_bind, Logger.debug_run]
    exact congrArg logger.extended (List.flatMap_singleton _ _).symm

theorem left_eq (path : Text) (logger : Logger) (steps : List Text) :
    left path logger (notedAll steps (entered logger)) =
      logger.extended (steps.flatMap (logger.note "load") ++ logger.keep
        { level := .debug, operation := "load", message := .duration ("load " ++ path) }) := by
  unfold left
  change { ((Logger.record .debug (.duration ("load " ++ path)) [] false).run _).2 with
    operation := logger.operation } = _
  rw [Logger.record_run, notedAll_eq, Logger.extended_extended]
  rfl

theorem load_log (path : Text) (pieceSize limit : Int) (source : Source) (logger : Logger) :
    ∃ steps, ((load path pieceSize limit source).run logger).2 =
      logger.extended (loadEntries logger path (Image.openAt path pieceSize limit source).isOk steps
        ((load path pieceSize limit source).run logger).1) := by
  unfold loadEntries Image.openAt
  rw [load_run]
  cases Image.opening path pieceSize limit source with
  | error failure => exact ⟨[], reportFailure_log path failure logger⟩
  | ok image =>
    obtain ⟨steps, hsteps⟩ := steady_assemble.notes { image } (entered logger)
    refine ⟨steps, ?_⟩
    dsimp only
    rw [hsteps, left_eq, finish_log, Logger.extended_extended]
    rfl

theorem warnAll_log (misses : List Miss) (logger : Logger) :
    Resolution.warnAll misses logger =
      logger.extended (misses.flatMap fun miss => logger.keep
        { level := .warning
          operation := logger.operationName
          message := .text miss.message }) := by
  induction misses generalizing logger with
  | nil => simp [Resolution.warnAll]
  | cons miss misses ih =>
    have hfirst : Resolution.warn (some miss) logger = logger.extended (logger.keep
        { level := .warning, operation := logger.operationName, message := .text miss.message }) :=
      congrArg Prod.snd (Logger.record_run logger .warning (.text miss.message) [] false)
    calc Resolution.warnAll (miss :: misses) logger
        = Resolution.warnAll misses (Resolution.warn (some miss) logger) := rfl
      _ = _ := by
          rw [hfirst, ih, Logger.extended_extended, List.flatMap_cons]
          rfl

/-- What a resolution leaves in the log: a warning for each miss and a note at the end. -/
def resolveEntries (logger : Logger) (db : ImportDatabase) (s : Session) : List LogEntry :=
  let report := Resolution.reportOn db (s.stubs.functions ++ s.stubs.vars)
  if s.released then []
  else
    (report.unresolved.flatMap fun miss => logger.keep
        { level := .warning, operation := "resolve_imports", message := .text miss.message }) ++
      logger.note "resolve_imports"
        ("Resolved " ++ Text.ofNat report.resolved ++ " of " ++ Text.ofNat report.total ++ " stubs")

theorem resolve_log (db : ImportDatabase) (s : Session) (logger : Logger) :
    ((resolve db s).run logger).2 = logger.extended (resolveEntries logger db s) := by
  unfold resolveEntries
  cases hreleased : s.released with
  | true =>
    have hstubs : s.stubsOf .functionStub = .error ⟨s.path⟩ := by
      rw [stubsOf, access, hreleased]
      rfl
    have hkind : resolveKind db .functionStub {} s = pure (.error ⟨s.path⟩) := by
      unfold resolveKind
      rw [hstubs]
    rw [resolve, Logger.withOperation_run, hkind, if_pos rfl, Logger.extended_nil]
    rfl
  | false =>
    have hmisses : (s.stubs.functions ++ s.stubs.vars).filterMap (Resolution.missed db) =
        (Resolution.reportOn db (s.stubs.functions ++ s.stubs.vars)).unresolved := rfl
    rw [resolve_eq hreleased, resolutionNoted, Logger.debug_run, hmisses, warnAll_log,
      Logger.extended_extended]
    rfl

/-- Every entry bears the name of the innermost operation that is open around its call, and whatever
a routine does, the operation of the logger is the same before and after. So it is for a load, whose
steps are logged under one operation and whose end under the one around it, and for a resolution. -/
theorem entries_under_operations :
    (∀ (r : Routine) (logger : Logger),
      r.run.run logger =
        ((r.trace logger (Routine.framesOf logger)).1,
          logger.extended (r.trace logger (Routine.framesOf logger)).2)) ∧
      (∀ path pieceSize limit source logger, ∃ steps,
        ((load path pieceSize limit source).run logger).2 =
          logger.extended (loadEntries logger path (Image.openAt path pieceSize limit source).isOk
            steps ((load path pieceSize limit source).run logger).1)) ∧
      ∀ db s logger,
        ((resolve db s).run logger).2 = logger.extended (resolveEntries logger db s) := by
  refine ⟨?_, load_log, resolve_log⟩
  intro r logger
  exact r.run_eq logger (Routine.operationName_eq logger)

end Session
end ImportStubs
