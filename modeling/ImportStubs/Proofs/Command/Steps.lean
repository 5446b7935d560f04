import ImportStubs.Command
import ImportStubs.Proofs.Database.Names
import ImportStubs.Proofs.Log.Operations

/-!
# The steps of the command

Each step of a request either goes well or ends the command. An end has the exit code one, and in
the JSON mode nothing has been printed. Whatever a step logs has no fields. The logger takes two
things: it has to be built, which includes its file, and if it logs the settings, these have to be
shown.
-/

namespace ImportStubs

/-- Entries without fields, which is all that the command logs. -/
def Bare (entries : List LogEntry) : Prop := ∀ e ∈ entries, e.fields = []

theorem bare_nil : Bare [] := fun _ he => absurd he List.not_mem_nil

theorem Bare.append {before after : List LogEntry} (hbefore : Bare before) (hafter : Bare after) :
    Bare (before ++ after) := List.forall_mem_append.mpr ⟨hbefore, hafter⟩

theorem bare_flatMap {α : Type} {f : α → List LogEntry} (h : ∀ x, Bare (f x)) (xs : List α) :
    Bare (xs.flatMap f) := by
  intro e he
  obtain ⟨x, -, hx⟩ := List.mem_flatMap.mp he
  exact h x e hx

theorem bare_keep (logger : Logger) {e : LogEntry} (h : e.fields = []) : Bare (logger.keep e) := by
  unfold Logger.keep
  split_ifs
  · exact List.forall_mem_singleton.mpr h
  · exact bare_nil

theorem bare_note (logger : Logger) (operation message : Text) :
    Bare (logger.note operation message) := bare_keep logger rfl

theorem Session.bare_loadEntries (logger : Logger) (path : Text) (opened : Bool)
    (steps : List Text) (result : Except Failure Session) :
    Bare (loadEntries logger path opened steps result) := by
  unfold loadEntries
  refine Bare.append ?_ (bare_flatMap (bare_note logger _) _)
  split_ifs
  · exact (bare_flatMap (bare_note logger _) _).append (bare_keep logger rfl)
  · exact bare_nil

theorem Session.bare_resolveEntries (logger : Logger) (db : ImportDatabase) (s : Session) :
    Bare (resolveEntries logger db s) := by
  unfold resolveEntries
  dsimp only
  split_ifs
  · exact bare_nil
  · exact (bare_flatMap (fun miss => bare_keep logger rfl) _).append (bare_note logger _ _)

namespace Command

section Logged

variable (isOutput : Bool) (log : Text) (o : Outcome)

theorem Outcome.log_logged : (o.logged isOutput log).log = log := rfl

theorem Outcome.exitCode_logged : (o.logged isOutput log).exitCode = o.exitCode := rfl

theorem Outcome.output_logged :
    (o.logged isOutput log).output = (if isOutput then log else []) ++ o.output := by
  cases isOutput <;> rfl

variable {isOutput log}

theorem Outcome.output_logged_of_quiet (h : isOutput = true → log = []) :
    (o.logged isOutput log).output = o.output := by
  cases isOutput with
  | false => rfl
  | true =>
    rw [output_logged, h rfl]
    rfl

end Logged

/-- An end by which a step may fail. -/
structure EndsEarly (r : Request) (o : Outcome) : Prop where
  exitCode_eq : o.exitCode = 1
  output_eq : r.json = true → o.output = []

theorem endsEarly_raised (r : Request) (cause : Escape) : EndsEarly r (.raised cause) :=
  ⟨rfl, fun _ => rfl⟩

theorem exitCode_written (texts : List Text) : (Outcome.written texts 1).exitCode = 1 := by
  unfold Outcome.written Outcome.exitCode
  dsimp only
  split_ifs <;> rfl

theorem output_written {texts : List Text} (h : ∀ t ∈ texts, t = []) (exitCode : ℕ) :
    (Outcome.written texts exitCode).output = [] :=
  List.flatten_eq_nil_iff.mpr fun t ht => h t ((List.takeWhile_sublist _).subset ht)

/-- A quiet console prints nothing. -/
theorem print_quiet {c : Console} (hquiet : c.quiet = true) {markup shown : Text}
    (h : c.print markup = .ok shown) : shown = [] := by
  obtain ⟨text, -, h⟩ := bind_eq_ok_iff.mp h
  split_ifs at h with hwidth
  · cases h
    rfl
  · obtain ⟨lines, -, h⟩ := bind_eq_ok_iff.mp h
    cases h
    rw [Console.display, if_pos (.inl hquiet)]

theorem endsEarly_refused (r : Request) (message : Text) :
    EndsEarly r (.refused { quiet := r.json } message) := by
  unfold Outcome.refused
  cases hline : Console.print { quiet := r.json } (Display.errorLine message) with
  | error e => exact endsEarly_raised r (.console e)
  | ok shown =>
    refine ⟨exitCode_written [shown], fun hjson => output_written ?_ 1⟩
    exact List.forall_mem_singleton.mpr (print_quiet (by exact hjson) hline)

theorem log_refused (c : Console) (message : Text) : (Outcome.refused c message).log = [] := by
  unfold Outcome.refused Outcome.ofPrinted
  cases (c.print (Display.errorLine message)).map ([·]) <;> rfl

variable {files : Files} {sources : Text → Source} {r : Request} {c : Console}

/-- Neither number of settings that are read is negative. -/
theorem validate_eq_ok {s t : LinkSettings} (h : Settings.validate s = .ok t) :
    0 ≤ t.chunkSize := by
  unfold Settings.validate at h
  split_ifs at h with hchunk hlimit
  cases h
  exact Int.not_lt.mp hchunk

theorem chunkSize_nonneg_of_ofBytes {bytes : List UInt8} {s : Settings}
    (h : Settings.ofBytes bytes = .ok s) : 0 ≤ s.link.chunkSize := by
  unfold Settings.ofBytes at h
  split at h
  · cases h
  · split at h
    · obtain ⟨global, -, h⟩ := bind_eq_ok_iff.mp h
      obtain ⟨link, -, h⟩ := bind_eq_ok_iff.mp h
      obtain ⟨checked, hchecked, h⟩ := bind_eq_ok_iff.mp h
      cases h
      exact validate_eq_ok hchecked
    · cases h
    · cases h

theorem chunkSize_nonneg_of_load {path : Text} {source : Source} {s : Settings}
    (h : Settings.load path source = .ok s) : 0 ≤ s.link.chunkSize := by
  cases source with
  | file bytes => exact chunkSize_nonneg_of_ofBytes h
  | unreadable failure => cases h

theorem chunkSize_nonneg (hr : ∀ n ∈ r.chunkSize, 0 ≤ n) {s : Settings}
    (h : readSettings files r = .ok s) : 0 ≤ s.link.chunkSize := by
  obtain ⟨before, hbefore, rfl⟩ := map_eq_ok_iff.mp h
  have hread : 0 ≤ before.link.chunkSize := by
    cases hconfig : r.config with
    | none =>
      rw [hconfig] at hbefore
      cases hbefore
      exact le_rfl
    | some path =>
      rw [hconfig] at hbefore
      exact chunkSize_nonneg_of_load hbefore
  cases hgiven : r.chunkSize with
  | none => simpa [Request.override, hgiven] using hread
  | some n => simpa [Request.override, hgiven] using hr n hgiven

theorem nonneg_of_checkNumber {t : Text} {n : Int} (h : Invocation.checkNumber t = .ok n) :
    0 ≤ n := by
  unfold Invocation.checkNumber at h
  split at h
  · split_ifs at h with hnegative
    cases h
    exact Int.not_lt.mp hnegative
  · cases h

/-- An accepted request asks for no negative number. -/
theorem chunkSize_of_read {arguments : List Text}
    (h : Invocation.read files arguments = .ok (.run r)) : ∀ n ∈ r.chunkSize, 0 ≤ n := by
  obtain ⟨a, -, h⟩ := bind_eq_ok_iff.mp h
  unfold Invocation.ofArguments at h
  split_ifs at h with hhelp
  · cases h
  split at h
  · cases h
  · cases h
  · obtain ⟨path, -, h⟩ := bind_eq_ok_iff.mp h
    obtain ⟨db, -, h⟩ := bind_eq_ok_iff.mp h
    obtain ⟨config, -, h⟩ := bind_eq_ok_iff.mp h
    obtain ⟨chunkSize, hchunk, h⟩ := bind_eq_ok_iff.mp h
    cases h
    have hchecked := option_mapM_eq_ok_iff.mp hchunk
    generalize a.value? .chunkSize = given at hchecked
    cases hchecked with
    | none => simp
    | some hn => simpa using nonneg_of_checkNumber hn

/-- The logger can be built, with its file. -/
def HasLogger (files : Files) (s : GlobalSettings) : Prop :=
  (∃ logger, Logger.ofSettings "cli" s = .ok logger) ∧ openLog files s = .ok ()

theorem hasConsole_of_ofSettings {tool : Text} {s : GlobalSettings} {logger : Logger}
    (h : Logger.ofSettings tool s = .ok logger) : logger.hasConsole = true := by
  obtain ⟨plain, -, rfl⟩ := map_eq_ok_iff.mp h
  rfl

theorem ofSettings_eq {tool : Text} {s : GlobalSettings} {threshold : ℕ}
    (h : Log.thresholdOf s.threshold = .ok threshold) :
    Logger.ofSettings tool s = .ok
      { tool, threshold, inherited := Log.Registry.inherited {} ("vitalink." ++ tool)
        hasConsole := true } := by
  rw [Logger.ofSettings, Logger.named, h]
  rfl

/-- Settings that are logged can be shown: no integer in them has too many digits for it. -/
def CanShow (s : Settings) : Prop :=
  ∀ logger, Logger.ofSettings "cli" s.global = .ok logger → logger.isEnabled .debug = true →
    Numeral.isShowable s.link.chunkSize = true ∧ Numeral.isShowable s.link.maxFileSize = true

theorem isShowable_toFields (s : Settings) :
    (Value.table s.toFields).isShowable =
      (Numeral.isShowable s.link.chunkSize && Numeral.isShowable s.link.maxFileSize) := by
  simp [Settings.toFields, Settings.globalFields, Settings.linkFields, Value.isShowable,
    Value.membersShowable]

theorem read_settingsTemplate :
    Template.read "Configuration: %s" = ("Configuration: " : Text).map .literal ++
      [.directive { conversion := some (.char 's'), position := 16 }] := by
  decide +kernel

theorem apply_literals (cs : Text) (rest : List Template.Piece) (args : Template.Arguments) :
    Template.apply (cs.map .literal ++ rest) args = (Template.apply rest args).map (cs ++ ·) := by
  induction cs with
  | nil => cases hrest : Template.apply rest args <;> simp [hrest, Except.map]
  | cons c cs ih =>
    rw [List.map_cons, List.cons_append, Template.apply, ih]
    cases Template.apply rest args <;> rfl

/-- The letter for texts takes any value that can be shown, and shows all of it. -/
theorem applyDirective_plain (members : List (Text × Value)) (v : Value) (position : ℕ) :
    Template.applyDirective { conversion := some (.char 's'), position } (.named members (some v)) =
      if v.isShowable then .ok (v.plain, .named members none) else .error .tooManyDigits := by
  have hconvert : Template.convert {} none (.char 's') position v =
      if v.isShowable then .ok { body := v.plain } else .error .tooManyDigits := rfl
  have hfill : Template.fill {} 0 { body := v.plain } = .ok v.plain := by
    simp [Template.fill, Template.memoryLimit]
  simp only [Template.applyDirective, Template.takeCount, Template.Arguments.next, pure,
    Except.pure, bind, Except.bind, Option.any_none, Bool.or_false, Option.map_none, hconvert]
  split_ifs with hshown
  · exact congrArg (Except.map fun t => (t, Template.Arguments.named members none)) hfill
  · rfl

/-- The entry of the settings has a text exactly if they can be shown. -/
theorem format_settings (s : Settings) :
    (∃ t, Template.format "Configuration: %s" [.table s.toFields] = .ok t) ↔
      Numeral.isShowable s.link.chunkSize = true ∧
        Numeral.isShowable s.link.maxFileSize = true := by
  have happly : Template.format "Configuration: %s" [.table s.toFields] =
      Template.apply (Template.read "Configuration: %s")
        (Template.argumentsOf [.table s.toFields]) := rfl
  rw [← Bool.and_eq_true, ← isShowable_toFields, happly, read_settingsTemplate, apply_literals,
    Settings.toFields, Template.argumentsOf, Template.apply, applyDirective_plain]
  split_ifs with hshown
  · exact iff_of_true ⟨_, rfl⟩ hshown
  · exact iff_of_false (by rintro ⟨t, ⟨⟩⟩) hshown

theorem apply_settingsCall {logger : Logger} (hconsole : logger.hasConsole = true)
    (s : Settings) :
    (∃ after, (settingsCall s).apply logger = .ok after) ↔ (logger.isEnabled .debug = true →
      Numeral.isShowable s.link.chunkSize = true ∧
        Numeral.isShowable s.link.maxFileSize = true) := by
  rw [← format_settings]
  cases henabled : logger.isEnabled .debug with
  | false =>
    refine iff_of_true ⟨logger, ?_⟩ (by simp)
    simp [LogCall.apply, settingsCall, henabled]
  | true =>
    have happly : (settingsCall s).apply logger =
        ((Template.format "Configuration: %s" [.table s.toFields]).mapError .template).map fun
          message => ((Logger.record .debug (.text message) [] false).run logger).2 := by
      simp only [LogCall.apply, settingsCall, henabled, hconsole, Value.member?, List.any_nil,
        List.lookup_nil, Option.any_none, Bool.not_true, Bool.false_eq_true, if_false, if_true]
      cases Template.format "Configuration: %s" [.table s.toFields] <;> rfl
    rw [happly]
    cases Template.format "Configuration: %s" [.table s.toFields] <;>
      simp [Except.mapError, Except.map]

/-- The logger is opened if it can be built and the settings can be shown to it. -/
theorem openLogger_iff {s : Settings} :
    (∃ logger, openLogger files s = .ok logger) ↔ HasLogger files s.global ∧ CanShow s := by
  unfold HasLogger CanShow
  constructor
  · rintro ⟨logger, h⟩
    obtain ⟨built, hbuilt, h⟩ := bind_eq_ok_iff.mp h
    obtain ⟨⟨⟩, hlog, hcall⟩ := bind_eq_ok_iff.mp h
    rw [mapError_eq_ok_iff] at hbuilt hcall
    refine ⟨⟨⟨built, hbuilt⟩, hlog⟩, fun other hother => ?_⟩
    cases hbuilt.symm.trans hother
    exact (apply_settingsCall (hasConsole_of_ofSettings hbuilt) s).mp ⟨logger, hcall⟩
  · rintro ⟨⟨⟨built, hbuilt⟩, hlog⟩, hshow⟩
    obtain ⟨logger, hcall⟩ :=
      (apply_settingsCall (hasConsole_of_ofSettings hbuilt) s).mpr (hshow built hbuilt)
    refine ⟨logger, bind_eq_ok_iff.mpr ⟨built, mapError_eq_ok_iff.mpr hbuilt, ?_⟩⟩
    exact bind_eq_ok_iff.mpr ⟨(), hlog, mapError_eq_ok_iff.mpr hcall⟩

/-- The first entry is that of the settings, if there is any. -/
theorem bare_openLogger {s : Settings} {logger : Logger} (h : openLogger files s = .ok logger) :
    Bare logger.entries := by
  obtain ⟨built, hbuilt, h⟩ := bind_eq_ok_iff.mp h
  obtain ⟨⟨⟩, -, hcall⟩ := bind_eq_ok_iff.mp h
  rw [mapError_eq_ok_iff] at hbuilt hcall
  rw [LogCall.apply_eq] at hcall
  obtain ⟨plain, hplain, rfl⟩ := map_eq_ok_iff.mp hbuilt
  obtain ⟨threshold, -, rfl⟩ := map_eq_ok_iff.mp hplain
  obtain ⟨message, -, rfl⟩ := map_eq_ok_iff.mp hcall
  change Bare ([] ++ _)
  rw [List.nil_append]
  intro e he
  obtain ⟨t, -, rfl⟩ := List.mem_map.mp he
  rfl

/-- Whatever the step logs has no fields, and if it fails, the command ends there. -/
def Orderly {α : Type} (r : Request) (step : Attempt α) : Prop :=
  ∀ logger, ∃ result entries, step.run.run logger = (result, logger.extended entries) ∧
    Bare entries ∧ FailsOnly (EndsEarly r) result

section Orderly

variable {α β : Type}

theorem Orderly.of_run {step : Attempt α} {result : Except Outcome α}
    (h : ∀ logger, step.run.run logger = (result, logger))
    (hresult : FailsOnly (EndsEarly r) result) : Orderly r step := by
  intro logger
  refine ⟨result, [], ?_, bare_nil, hresult⟩
  rw [h, Logger.extended_nil]

theorem orderly_pure (value : α) : Orderly r (pure value : Attempt α) :=
  .of_run (fun _ => rfl) (failsOnly_ok value)

theorem Orderly.bind {step : Attempt α} {next : α → Attempt β} (hstep : Orderly r step)
    (hnext : ∀ value, Orderly r (next value)) : Orderly r (step >>= next) := by
  intro logger
  obtain ⟨result, entries, hrun, hbare, hearly⟩ := hstep logger
  cases result with
  | error e =>
    exact ⟨.error e, entries, run_bind_of_error hrun next, hbare, failsOnly_error (hearly e rfl)⟩
  | ok value =>
    obtain ⟨last, others, hlast, hothers, hfails⟩ := hnext value (logger.extended entries)
    refine ⟨last, entries ++ others, ?_, hbare.append hothers, hfails⟩
    rw [run_bind_of_ok hrun, hlast, Logger.extended_extended]

end Orderly

/-- The logger is left alone while a database is read. -/
theorem loadDatabase_run (sources : Text → Source) (c : Console) (path : Text) (logger : Logger) :
    (loadDatabase sources c path).run.run logger =
      ((NidDatabase.ofSource path (sources path)).mapError (databaseEnd c), logger) := by
  unfold loadDatabase
  cases NidDatabase.ofSource path (sources path) <;> rfl

theorem mapM_loadDatabase_run (path? : Option Text) (logger : Logger) :
    (path?.mapM (loadDatabase sources c)).run.run logger =
      ((path?.mapM fun path => NidDatabase.ofSource path (sources path)).mapError (databaseEnd c),
        logger) := by
  cases path? with
  | none => rfl
  | some path =>
    have hrun := loadDatabase_run sources c path logger
    change (loadDatabase sources c path >>= fun db => pure (some db)).run.run logger =
      ((NidDatabase.ofSource path (sources path) >>= fun db => .ok (some db)).mapError _, logger)
    cases hdb : NidDatabase.ofSource path (sources path) with
    | ok db =>
      rw [hdb] at hrun
      rw [run_bind_of_ok hrun]
      rfl
    | error e =>
      rw [hdb] at hrun
      rw [run_bind_of_error hrun]
      rfl

theorem endsEarly_databaseEnd (e : DatabaseError) :
    EndsEarly r (databaseEnd { quiet := r.json } e) := by
  unfold databaseEnd
  split_ifs
  · exact endsEarly_refused r (databaseMessage e)
  · exact endsEarly_raised r (.database e)

theorem endsEarly_loadEnd (e : ReadError) : EndsEarly r (loadEnd { quiet := r.json } e) := by
  unfold loadEnd
  split
  · exact endsEarly_refused r _
  · exact endsEarly_raised r _

theorem orderly_loadDatabase (path? : Option Text) :
    Orderly r (path?.mapM (loadDatabase sources { quiet := r.json })) :=
  .of_run (mapM_loadDatabase_run path?) (FailsOnly.mapError endsEarly_databaseEnd)

/-- Nothing fails in an action that only logs. -/
theorem liftM_run {α : Type} (action : StateM Logger α) (logger : Logger) :
    (liftM action : Attempt α).run.run logger =
      (.ok (action.run logger).1, (action.run logger).2) := rfl

theorem loadSession_run (path : Text) (link : LinkSettings) (logger : Logger) :
    (loadSession sources c path link).run.run logger =
      let loaded := (Session.load path link.chunkSize link.maxFileSize (sources path)).run logger
      (loaded.1.mapError fun failure => loadEnd c failure.error, loaded.2) := by
  unfold loadSession
  rw [run_bind_of_ok (liftM_run _ logger)]
  rcases (Session.load path link.chunkSize link.maxFileSize (sources path)).run logger with
    ⟨_ | _, after⟩ <;> rfl

theorem orderly_loadSession (path : Text) (link : LinkSettings) :
    Orderly r (loadSession sources { quiet := r.json } path link) := by
  intro logger
  obtain ⟨steps, hlog⟩ :=
    Session.load_log path link.chunkSize link.maxFileSize (sources path) logger
  rw [loadSession_run]
  dsimp only
  rw [hlog]
  exact ⟨_, _, rfl, Session.bare_loadEntries _ _ _ _ _, FailsOnly.mapError fun _ =>
    endsEarly_loadEnd _⟩

theorem resolveSession_run (db : NidDatabase) (s : Session) (logger : Logger) :
    (resolveSession (some db) s).run.run logger =
      let resolved := (s.resolve db.lookups).run logger
      ((resolved.1.map fun found => (found.1, some found.2)).mapError fun e =>
        .raised (.released e), resolved.2) := by
  unfold resolveSession
  dsimp only
  rw [run_bind_of_ok (liftM_run _ logger)]
  rcases (s.resolve db.lookups).run logger with ⟨_ | _, after⟩ <;> rfl

theorem orderly_resolveSession (db : Option NidDatabase) (s : Session) :
    Orderly r (resolveSession db s) := by
  cases db with
  | none => exact orderly_pure (s, none)
  | some db =>
    intro logger
    rw [resolveSession_run]
    dsimp only
    rw [Session.resolve_log]
    exact ⟨_, _, rfl, Session.bare_resolveEntries _ _ _, FailsOnly.mapError fun _ =>
      endsEarly_raised r _⟩

theorem orderly_attempt (sources : Text → Source) (r : Request) (link : LinkSettings) :
    Orderly r (attempt sources r link) :=
  (orderly_loadDatabase _).bind fun db => (orderly_loadSession r.path link).bind fun s =>
    (orderly_resolveSession db s).bind fun _ => orderly_pure _

end Command
end ImportStubs
