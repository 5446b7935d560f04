import ImportStubs.Proofs.Command.Document
import ImportStubs.Proofs.Command.LoggedOutput
import ImportStubs.Proofs.Command.Steps
import ImportStubs.Proofs.Database.Files
import ImportStubs.Proofs.Display.Names
import ImportStubs.Proofs.Number.LongNumeral
import ImportStubs.Proofs.Resolution.Outcome
import ImportStubs.Proofs.Toml.Hexadecimal

/-!
# The outcome of a request

A request that gets its settings, its database and its binary is expected to end with zero exactly
if every stub is resolved, and in the JSON mode to write one document whatever is resolved. Three
things can keep it from that: an entry with the settings that cannot be shown, without the JSON mode
a lone surrogate in what is printed, and in the JSON mode a log on the standard output.
-/

namespace ImportStubs.Command

variable {clock : ℕ → Log.Reading} {files : Files} {sources : Text → Source} {r : Request}
  {settings : Settings} {link : LinkSettings} {db : Option NidDatabase} {s : Session}

/-- The database, if one is asked for, and the binary of a request can be read. -/
structure Reads (sources : Text → Source) (r : Request) (link : LinkSettings)
    (db : Option NidDatabase) (s : Session) : Prop where
  database_eq : (databasePath? r link).mapM
    (fun path => NidDatabase.ofSource path (sources path)) = .ok db
  session_eq : ∀ logger, ((Session.load r.path link.chunkSize link.maxFileSize
    (sources r.path)).run logger).1 = .ok s

theorem Reads.unique {db' : Option NidDatabase} {s' : Session} (h : Reads sources r link db s)
    (h' : Reads sources r link db' s') : db' = db ∧ s' = s :=
  ⟨Except.ok.inj (h'.database_eq.symm.trans h.database_eq),
    Except.ok.inj ((h'.session_eq default).symm.trans (h.session_eq default))⟩

theorem Reads.exists_run (h : Reads sources r link db s) (logger : Logger) : ∃ after,
    (Session.load r.path link.chunkSize link.maxFileSize (sources r.path)).run logger =
      (.ok s, after) :=
  ⟨_, Prod.ext (h.session_eq logger) rfl⟩

theorem Reads.released_eq (h : Reads sources r link db s) : s.released = false := by
  obtain ⟨after, hrun⟩ := h.exists_run default
  exact (Session.open_of_load hrun).1

theorem Reads.joined (h : Reads sources r link db s) : ∀ d ∈ db, d.Joined := by
  have hread := option_mapM_eq_ok_iff.mp h.database_eq
  rintro d rfl
  generalize databasePath? r link = path? at hread
  cases hread with
  | some hd => exact NidDatabase.joined_of_ofSource hd

/-- A session is loaded from the bytes of a file. -/
theorem Reads.exists_loaded (h : Reads sources r link db s) (hchunk : 0 ≤ link.chunkSize) :
    ∃ file, Session.Loaded file s := by
  obtain ⟨after, hrun⟩ := h.exists_run default
  obtain ⟨n, hn⟩ := Int.eq_ofNat_of_zero_le hchunk
  obtain ⟨image, tables, hopen, -, -⟩ := Session.exists_openAt_of_load hrun
  obtain ⟨file, _, _, hfile, -⟩ := Image.openAt_eq_ok hopen
  rw [hn, hfile] at hrun
  exact ⟨file, Session.loaded_of_load hrun⟩

/-- What the JSON mode writes of a loaded session is regular. -/
theorem Reads.regular (h : Reads sources r link db s) (hchunk : 0 ≤ link.chunkSize) :
    Json.Regular False (document (resolvedBy db s) (reportBy db s)) := by
  obtain ⟨file, hloaded⟩ := h.exists_loaded hchunk
  obtain ⟨after, hrun⟩ := h.exists_run default
  obtain ⟨hpath, hsame⟩ := Session.path_of_load hrun
  refine (documented_loaded hloaded ?_ h.joined).regular
  rw [hsame]
  exact joinPairs_of_checkPath hpath

/-- What paths lead to when the database and the binary are read. The log has been opened then, and
its file may be one of these. -/
def laterSources (clock : ℕ → Log.Reading) (files : Files) (settings : Settings) :
    Text → Source :=
  match openLogger files settings with
  | .ok logger => sourcesAfter clock files settings.global logger
  | .error _ => files

/-- The settings, the database if one is asked for, and the binary of a request can be read. -/
structure Loads (clock : ℕ → Log.Reading) (files : Files) (r : Request) (settings : Settings)
    (db : Option NidDatabase) (s : Session) : Prop where
  settings_eq : readSettings files r = .ok settings
  reads : Reads (laterSources clock files settings) r settings.link db s

theorem Loads.unique {settings' : Settings} {db' : Option NidDatabase} {s' : Session}
    (h : Loads clock files r settings db s) (h' : Loads clock files r settings' db' s') :
    settings' = settings ∧ db' = db ∧ s' = s := by
  obtain rfl := Except.ok.inj (h'.settings_eq.symm.trans h.settings_eq)
  exact ⟨rfl, h.reads.unique h'.reads⟩

/-- Nothing keeps a request from coming to its end. -/
structure Finishes (clock : ℕ → Log.Reading) (files : Files) (r : Request) (settings : Settings)
    (db : Option NidDatabase) (s : Session) : Prop where
  loads : Loads clock files r settings db s
  hasLogger : HasLogger files settings.global
  canShow : CanShow settings

/-- What a request ends with if all of its steps go well. -/
def finished (r : Request) (db : Option NidDatabase) (s : Session) : Outcome :=
  let exitCode := if isComplete (reportBy db s) then 0 else 1
  if r.json then
    .written [Json.writeDocument (document (resolvedBy db s) (reportBy db s)) ++ "\n"] exitCode
  else .ofPrinted (display { quiet := r.json } (resolvedBy db s) (reportBy db s)) exitCode

theorem resolveSession_run_of_open (db : Option NidDatabase) (hreleased : s.released = false)
    (logger : Logger) :
    ∃ after, (resolveSession db s).run.run logger =
      (.ok (resolvedBy db s, reportBy db s), after) := by
  cases db with
  | none => exact ⟨logger, rfl⟩
  | some d =>
    rw [resolveSession_run]
    dsimp only
    rw [Session.resolve_reports hreleased]
    exact ⟨_, rfl⟩

theorem attempt_run_eq_ok_iff {logger : Logger} {o : Outcome} :
    (∃ after, (attempt sources r link).run.run logger = (.ok o, after)) ↔
      ∃ db s, Reads sources r link db s ∧ o = finished r db s := by
  constructor
  · rintro ⟨after, h⟩
    obtain ⟨db, first, hdb, h⟩ := run_bind_eq_ok_iff.mp h
    obtain ⟨s, second, hs, h⟩ := run_bind_eq_ok_iff.mp h
    rw [mapM_loadDatabase_run] at hdb
    rw [loadSession_run] at hs
    have hreads : Reads sources r link db s :=
      ⟨mapError_eq_ok_iff.mp (Prod.mk.inj hdb).1, fun other => by
        rw [← mapError_eq_ok_iff.mp (Prod.mk.inj hs).1]
        exact Session.load_deaf ..⟩
    obtain ⟨third, hresolve⟩ := resolveSession_run_of_open db hreads.released_eq second
    rw [run_bind_of_ok hresolve] at h
    exact ⟨db, s, hreads, (Except.ok.inj (Prod.mk.inj h).1).symm⟩
  · rintro ⟨db, s, hreads, rfl⟩
    have hdb : ((databasePath? r link).mapM (loadDatabase sources { quiet := r.json })).run.run
        logger = (.ok db, logger) := by
      rw [mapM_loadDatabase_run, hreads.database_eq]
      rfl
    obtain ⟨second, hload⟩ := hreads.exists_run logger
    have hs : (loadSession sources { quiet := r.json } r.path link).run.run logger =
        (.ok s, second) := by
      rw [loadSession_run, hload]
      rfl
    obtain ⟨third, hresolve⟩ := resolveSession_run_of_open db hreads.released_eq second
    refine ⟨third, ?_⟩
    unfold attempt
    rw [run_bind_of_ok hdb, run_bind_of_ok hs, run_bind_of_ok hresolve]
    rfl

theorem runRequest_of_settings_error {e : SettingsError} (h : readSettings files r = .error e) :
    runRequest clock files r = .refused { quiet := r.json } (settingsMessage e) := by
  rw [runRequest, h]

section

variable (hsettings : readSettings files r = .ok settings)
include hsettings

theorem runRequest_of_logger_error {cause : Escape} (h : openLogger files settings = .error cause) :
    runRequest clock files r = .raised cause := by
  rw [runRequest, hsettings]
  dsimp only
  rw [h]

theorem runRequest_of_run {logger after : Logger} {result : Except Outcome Outcome}
    (hlogger : openLogger files settings = .ok logger)
    (hrun : (attempt (sourcesAfter clock files settings.global logger) r settings.link).run.run
      logger = (result, after)) :
    runRequest clock files r =
      (Outcome.ofResult result).logged (files.isOutput (Source.plainPath settings.global.logFile))
        (logText clock settings.global after) := by
  have hrun' : (attempt (sourcesAfter clock files settings.global logger) r settings.link).run
    logger = (result, after) := hrun
  rw [runRequest, hsettings]
  dsimp only
  rw [hlogger]
  dsimp only
  rw [hrun']

end

/-- A request that has its settings logs something, and apart from that it comes to its end or ends
early. -/
theorem exists_logged (clock : ℕ → Log.Reading) (hsettings : readSettings files r = .ok settings) :
    ∃ o, runRequest clock files r = o.logged
        (files.isOutput (Source.plainPath settings.global.logFile))
        (runRequest clock files r).log ∧
      ((∃ db s, Finishes clock files r settings db s ∧ o = finished r db s) ∨
        EndsEarly r o ∧ ¬∃ db s, Finishes clock files r settings db s) := by
  cases hlogger : openLogger files settings with
  | error cause =>
    refine ⟨.raised cause, ?_, .inr ⟨endsEarly_raised r cause, ?_⟩⟩
    · rw [runRequest_of_logger_error hsettings hlogger]
      cases files.isOutput (Source.plainPath settings.global.logFile) <;> rfl
    · rintro ⟨db, s, hfinishes⟩
      obtain ⟨logger, hopen⟩ := openLogger_iff.mpr ⟨hfinishes.hasLogger, hfinishes.canShow⟩
      cases hlogger.symm.trans hopen
  | ok logger =>
    have hlater : laterSources clock files settings =
        sourcesAfter clock files settings.global logger := by rw [laterSources, hlogger]
    obtain ⟨result, entries, hrun, -, hearly⟩ := orderly_attempt
      (sourcesAfter clock files settings.global logger) r settings.link logger
    refine ⟨.ofResult result, ?_, ?_⟩
    · rw [runRequest_of_run hsettings hlogger hrun]
      rfl
    cases result with
    | ok o =>
      obtain ⟨db, s, hreads, ho⟩ := attempt_run_eq_ok_iff.mp ⟨_, hrun⟩
      obtain ⟨hcan, hshow⟩ := openLogger_iff.mp ⟨logger, hlogger⟩
      exact .inl ⟨db, s, ⟨⟨hsettings, hlater ▸ hreads⟩, hcan, hshow⟩, ho⟩
    | error o =>
      refine .inr ⟨hearly o rfl, ?_⟩
      rintro ⟨db, s, hfinishes⟩
      obtain ⟨after, hok⟩ :=
        attempt_run_eq_ok_iff.mpr ⟨db, s, hlater ▸ hfinishes.loads.reads, rfl⟩
      cases hrun.symm.trans hok

/-- The log of a request consists of lines of entries without fields. -/
theorem log_runRequest (clock : ℕ → Log.Reading) (files : Files) (r : Request) :
    ∃ logger json, Bare logger.entries ∧
      (runRequest clock files r).log = Logger.file json clock logger := by
  have hnothing : ∃ logger json, Bare logger.entries ∧ [] = Logger.file json clock logger :=
    ⟨{ tool := [], threshold := 0 }, false, bare_nil, rfl⟩
  cases hsettings : readSettings files r with
  | error e =>
    rw [runRequest_of_settings_error hsettings, log_refused]
    exact hnothing
  | ok settings =>
    cases hlogger : openLogger files settings with
    | error cause =>
      rw [runRequest_of_logger_error hsettings hlogger]
      exact hnothing
    | ok logger =>
      obtain ⟨result, entries, hrun, hbare, -⟩ := orderly_attempt
        (sourcesAfter clock files settings.global logger) r settings.link logger
      rw [runRequest_of_run hsettings hlogger hrun, Outcome.log_logged, logText]
      split_ifs
      · exact hnothing
      · exact ⟨_, settings.global.logJson, (bare_openLogger hlogger).append hbare, rfl⟩

/-- If a document is read of the output, then no log stands before it. -/
theorem log_eq_nil_of_tells {printed : Text} {cs : List Char} {v : Value}
    (houtput : (runRequest clock files r).log ++ printed = Text.ofChars cs)
    (hread : Json.read cs = .ok v) (htells : Tells db s v) :
    (runRequest clock files r).log = [] := by
  by_contra hlog
  obtain ⟨logger, json, hbare, hfile⟩ := log_runRequest clock files r
  rw [hfile] at houtput hlog
  cases (Logger.member?_of_read_file hbare hlog houtput hread).symm.trans htells.stubs

/-- Every stub of the session is resolved, if there is a database. -/
def Complete (db : Option NidDatabase) (s : Session) : Prop :=
  ∀ d ∈ db, ∀ stub ∈ s.stubs.functions ++ s.stubs.vars,
    (Resolution.resolved d.lookups stub).isResolved = true

theorem isComplete_iff : isComplete (reportBy db s) = true ↔ Complete db s := by
  cases db with
  | none => simp [Complete, isComplete, reportBy]
  | some d =>
    have hreport : isComplete (reportBy (some d) s) =
        ((s.stubs.functions ++ s.stubs.vars).filterMap (Resolution.missed d.lookups)).isEmpty := rfl
    rw [hreport, List.isEmpty_iff, List.filterMap_eq_nil_iff]
    simp only [Complete, Option.mem_some_iff, forall_eq', Resolution.isResolved_resolved]

theorem exitCode_eq_zero_iff :
    (if isComplete (reportBy db s) then 0 else 1) = 0 ↔ Complete db s := by
  rw [← isComplete_iff]
  cases isComplete (reportBy db s) <;> simp

/-- What is promised of the outcome of a request. -/
structure AsPromised (clock : ℕ → Log.Reading) (files : Files) (r : Request) (o : Outcome) :
    Prop where
  /-- The exit code is zero exactly if nothing fails and every stub is resolved. -/
  exitCode_eq_zero_iff : o.exitCode = 0 ↔ ∃ settings db s, Loads clock files r settings db s ∧
    HasLogger files settings.global ∧ Complete db s
  silent : r.json = true → (∀ settings db s, ¬Loads clock files r settings db s) → o.output = []
  /-- The JSON mode writes one document, whether or not every stub is resolved. -/
  document : r.json = true → ∀ settings db s, Loads clock files r settings db s →
    ∃ cs v, o.output = Text.ofChars cs ∧ Json.read cs = .ok v ∧ Tells db s v

/-- What is printed of a session can be written: no lone surrogate stands in it. -/
def CanPrint (db : Option NidDatabase) (s : Session) : Prop :=
  ∀ texts, display {} (resolvedBy db s) (reportBy db s) = .ok texts →
    ∀ t ∈ texts, Text.hasSurrogate t = false

theorem printable_display (c : Console) (s : Session) (report : Option Report) :
    Console.Printable (display c s report) := by
  refine (Display.printable_session c s).bind fun shown _ => ?_
  cases report with
  | none => exact Console.printable_ok _
  | some report =>
    exact (Display.printable_report c report).bind fun _ _ => Console.printable_ok _

theorem exitCode_written_eq_zero_iff {texts : List Text} {exitCode : ℕ} :
    (Outcome.written texts exitCode).exitCode = 0 ↔
      exitCode = 0 ∧ ∀ t ∈ texts, Text.hasSurrogate t = false := by
  have hany : texts.any Text.hasSurrogate = false ↔ ∀ t ∈ texts, Text.hasSurrogate t = false := by
    simp
  rw [← hany, Outcome.written, Outcome.exitCode]
  cases texts.any Text.hasSurrogate <;> simp [Ending.exitCode]

theorem written_ofChars (cs : List Char) (exitCode : ℕ) :
    Outcome.written [Text.ofChars cs] exitCode =
      { output := Text.ofChars cs, ending := .exit exitCode } := by
  simp [Outcome.written]

section Finished

variable (hreads : Reads sources r link db s) (hchunk : 0 ≤ link.chunkSize)
include hreads hchunk

/-- In the JSON mode the document is the output. -/
theorem finished_json (hjson : r.json = true) : ∃ cs v,
    finished r db s = { output := Text.ofChars cs
                        ending := .exit (if isComplete (reportBy db s) then 0 else 1) } ∧
      Json.read cs = .ok v ∧ Tells db s v := by
  obtain ⟨cs, hcs, hread⟩ := Json.read_writeDocument (hreads.regular hchunk)
  refine ⟨cs, _, ?_, hread, tells_document db s⟩
  rw [finished, hjson, ← written_ofChars, ← hcs]
  rfl

/-- Without the JSON mode, what is printed decides too. -/
theorem exitCode_finished_eq_zero_iff :
    (finished r db s).exitCode = 0 ↔ Complete db s ∧ (r.json = false → CanPrint db s) := by
  rw [← exitCode_eq_zero_iff]
  cases hjson : r.json with
  | true =>
    obtain ⟨cs, v, hfinished, -⟩ := finished_json hreads hchunk hjson
    simp [hfinished, Outcome.exitCode, Ending.exitCode]
  | false =>
    obtain ⟨texts, hdisplay, -⟩ := printable_display {} (resolvedBy db s) (reportBy db s)
    have hfinished : finished r db s =
        .written texts (if isComplete (reportBy db s) then 0 else 1) := by
      rw [finished, hjson]
      exact congrArg (Outcome.ofPrinted · _) hdisplay
    rw [hfinished, exitCode_written_eq_zero_iff]
    refine and_congr_right fun _ => ⟨fun h _ shown hshown => ?_, fun h => h rfl texts hdisplay⟩
    cases hdisplay.symm.trans hshown
    exact h

end Finished

/-- A request that comes to its end. -/
theorem Finishes.runRequest_eq (h : Finishes clock files r settings db s) :
    runRequest clock files r = (finished r db s).logged
      (files.isOutput (Source.plainPath settings.global.logFile))
      (runRequest clock files r).log := by
  obtain ⟨o, ho, ⟨db', s', h', rfl⟩ | ⟨-, hnone⟩⟩ := exists_logged clock h.loads.settings_eq
  · obtain ⟨-, rfl, rfl⟩ := h.loads.unique h'.loads
    exact ho
  · exact absurd ⟨db, s, h⟩ hnone

/-- A request that has its settings and does not come to its end. -/
theorem exists_endsEarly (clock : ℕ → Log.Reading) (hsettings : readSettings files r = .ok settings)
    (hnone : ¬∃ db s, Finishes clock files r settings db s) :
    ∃ o, EndsEarly r o ∧ runRequest clock files r = o.logged
      (files.isOutput (Source.plainPath settings.global.logFile))
      (runRequest clock files r).log := by
  obtain ⟨o, ho, ⟨db, s, hfinishes, -⟩ | ⟨hearly, -⟩⟩ := exists_logged clock hsettings
  · exact absurd ⟨db, s, hfinishes⟩ hnone
  · exact ⟨o, hearly, ho⟩

theorem exitCode_of_not_finishes (h : ¬∃ settings db s, Finishes clock files r settings db s) :
    (runRequest clock files r).exitCode = 1 := by
  cases hsettings : readSettings files r with
  | error e =>
    rw [runRequest_of_settings_error hsettings]
    exact (endsEarly_refused r _).exitCode_eq
  | ok settings =>
    obtain ⟨o, hearly, ho⟩ := exists_endsEarly clock hsettings fun hfinishes =>
      h ⟨settings, hfinishes⟩
    rw [ho, Outcome.exitCode_logged]
    exact hearly.exitCode_eq

theorem exists_finishes_of_exitCode_eq_zero (h : (runRequest clock files r).exitCode = 0) :
    ∃ settings db s, Finishes clock files r settings db s := by
  by_contra hnone
  exact absurd ((exitCode_of_not_finishes hnone).symm.trans h) Nat.one_ne_zero

/-- If a document is read of what is printed after a log, that log is empty. -/
theorem quiet_of_tells {o : Outcome} {isOutput : Bool}
    (hrun : runRequest clock files r = o.logged isOutput (runRequest clock files r).log)
    {cs : List Char} {v : Value} (houtput : (runRequest clock files r).output = Text.ofChars cs)
    (hread : Json.read cs = .ok v) (htells : Tells db s v) :
    isOutput = true → (runRequest clock files r).log = [] := by
  rintro rfl
  rw [hrun, Outcome.output_logged, if_pos rfl] at houtput
  exact log_eq_nil_of_tells houtput hread htells

/-- In the JSON mode a document takes a logger and settings that can be shown. -/
theorem AsPromised.opens (h : AsPromised clock files r (runRequest clock files r))
    (hjson : r.json = true) (hloads : Loads clock files r settings db s) :
    HasLogger files settings.global ∧ CanShow settings := by
  by_contra hnot
  have hnone : ¬∃ db s, Finishes clock files r settings db s := by
    rintro ⟨db', s', hfinishes⟩
    exact hnot ⟨hfinishes.hasLogger, hfinishes.canShow⟩
  obtain ⟨o, hearly, ho⟩ := exists_endsEarly clock hloads.settings_eq hnone
  obtain ⟨cs, v, hcs, hread, htells⟩ := h.document hjson settings db s hloads
  have hquiet := quiet_of_tells ho hcs hread htells
  rw [ho, Outcome.output_logged_of_quiet o hquiet, hearly.output_eq hjson] at hcs
  obtain rfl : cs = [] := List.map_eq_nil_iff.mp hcs.symm
  cases Json.read_nil.symm.trans hread

/-- Without the JSON mode a success takes settings that can be shown and a printed session. -/
theorem AsPromised.prints (h : AsPromised clock files r (runRequest clock files r))
    (hchunk : 0 ≤ settings.link.chunkSize) (hjson : r.json = false)
    (hloads : Loads clock files r settings db s) (hcan : HasLogger files settings.global)
    (hcomplete : Complete db s) : CanShow settings ∧ CanPrint db s := by
  have hzero := h.exitCode_eq_zero_iff.mpr ⟨settings, db, s, hloads, hcan, hcomplete⟩
  obtain ⟨settings', db', s', hfinishes⟩ := exists_finishes_of_exitCode_eq_zero hzero
  obtain ⟨rfl, rfl, rfl⟩ := hloads.unique hfinishes.loads
  rw [hfinishes.runRequest_eq, Outcome.exitCode_logged] at hzero
  exact ⟨hfinishes.canShow,
    ((exitCode_finished_eq_zero_iff hloads.reads hchunk).mp hzero).2 hjson⟩

/-- In the JSON mode nothing is logged to the standard output. -/
theorem AsPromised.quiet (h : AsPromised clock files r (runRequest clock files r))
    (hjson : r.json = true) (hsettings : readSettings files r = .ok settings)
    (hout : files.isOutput (Source.plainPath settings.global.logFile) = true) :
    (runRequest clock files r).log = [] := by
  by_cases hloads : ∃ db s, Loads clock files r settings db s
  · obtain ⟨db, s, hloads⟩ := hloads
    obtain ⟨cs, v, hcs, hread, htells⟩ := h.document hjson settings db s hloads
    obtain ⟨o, ho, -⟩ := exists_logged clock hsettings
    exact quiet_of_tells ho hcs hread htells hout
  · have hnone : ∀ settings db s, ¬Loads clock files r settings db s := by
      intro settings' db s hother
      obtain rfl := Except.ok.inj (hother.settings_eq.symm.trans hsettings)
      exact hloads ⟨db, s, hother⟩
    obtain ⟨o, ho, -⟩ := exists_logged clock hsettings
    have hsilent := h.silent hjson hnone
    rw [ho, Outcome.output_logged, if_pos hout] at hsilent
    exact (List.append_eq_nil_iff.mp hsilent).1

/-- No step, no writing and no log can go wrong any more. -/
structure Faultless (clock : ℕ → Log.Reading) (files : Files) (r : Request) : Prop where
  opens : ∀ settings db s, Loads clock files r settings db s → r.json = true →
    HasLogger files settings.global ∧ CanShow settings
  prints : ∀ settings db s, Loads clock files r settings db s → r.json = false →
    HasLogger files settings.global → Complete db s → CanShow settings ∧ CanPrint db s
  quiet : ∀ settings, readSettings files r = .ok settings → r.json = true →
    files.isOutput (Source.plainPath settings.global.logFile) = true →
      (runRequest clock files r).log = []

section Faultless

variable (h : Faultless clock files r) (hr : ∀ n ∈ r.chunkSize, 0 ≤ n)
include h

theorem Faultless.finishes (hloads : Loads clock files r settings db s)
    (hcan : HasLogger files settings.global) (hcomplete : Complete db s) :
    Finishes clock files r settings db s ∧ (r.json = false → CanPrint db s) := by
  cases hjson : r.json with
  | true => exact ⟨⟨hloads, hcan, (h.opens settings db s hloads hjson).2⟩, nofun⟩
  | false =>
    obtain ⟨hshow, hprint⟩ := h.prints settings db s hloads hjson hcan hcomplete
    exact ⟨⟨hloads, hcan, hshow⟩, fun _ => hprint⟩

include hr

theorem Faultless.exitCode_eq_zero_iff :
    (runRequest clock files r).exitCode = 0 ↔ ∃ settings db s,
      Loads clock files r settings db s ∧ HasLogger files settings.global ∧ Complete db s := by
  constructor
  · intro hzero
    obtain ⟨settings, db, s, hfinishes⟩ := exists_finishes_of_exitCode_eq_zero hzero
    have hchunk := chunkSize_nonneg hr hfinishes.loads.settings_eq
    rw [hfinishes.runRequest_eq, Outcome.exitCode_logged] at hzero
    exact ⟨settings, db, s, hfinishes.loads, hfinishes.hasLogger,
      ((exitCode_finished_eq_zero_iff hfinishes.loads.reads hchunk).mp hzero).1⟩
  · rintro ⟨settings, db, s, hloads, hcan, hcomplete⟩
    obtain ⟨hfinishes, hprint⟩ := h.finishes hloads hcan hcomplete
    have hchunk := chunkSize_nonneg hr hloads.settings_eq
    rw [hfinishes.runRequest_eq, Outcome.exitCode_logged]
    exact (exitCode_finished_eq_zero_iff hloads.reads hchunk).mpr ⟨hcomplete, hprint⟩

theorem Faultless.asPromised : AsPromised clock files r (runRequest clock files r) where
  exitCode_eq_zero_iff := h.exitCode_eq_zero_iff hr
  silent hjson hnone := by
    cases hsettings : readSettings files r with
    | error e =>
      rw [runRequest_of_settings_error hsettings]
      exact (endsEarly_refused r _).output_eq hjson
    | ok settings =>
      obtain ⟨o, hearly, ho⟩ := exists_endsEarly clock hsettings fun ⟨db, s, hfinishes⟩ =>
        hnone settings db s hfinishes.loads
      rw [ho, Outcome.output_logged_of_quiet o (h.quiet settings hsettings hjson)]
      exact hearly.output_eq hjson
  document hjson settings db s hloads := by
    obtain ⟨hcan, hshow⟩ := h.opens settings db s hloads hjson
    have hfinishes : Finishes clock files r settings db s := ⟨hloads, hcan, hshow⟩
    have hchunk := chunkSize_nonneg hr hloads.settings_eq
    obtain ⟨cs, v, hfinished, hread, htells⟩ := finished_json hloads.reads hchunk hjson
    refine ⟨cs, v, ?_, hread, htells⟩
    rw [hfinishes.runRequest_eq,
      Outcome.output_logged_of_quiet _ (h.quiet settings hloads.settings_eq hjson), hfinished]

end Faultless

/-- Without a log every path leads to what it did before. -/
theorem laterSources_of_isEmpty (h : settings.global.logFile.isEmpty = true) :
    laterSources clock files settings = files := by
  unfold laterSources sourcesAfter
  cases openLogger files settings with
  | error cause => rfl
  | ok logger => exact if_pos h

/-- A binary, a database without libraries, and settings with a limit of 3601 digits. -/
def sampleSource (path : Text) : Source :=
  if path.is "small" then .file Session.smallBinary
  else if path.is "db.json" then .file (Utf8.encode ['\x7b', '\x7d'])
  else if path.is "limit.toml" then .file (Settings.limitFile ('1' :: List.replicate 3600 '0'))
  else .unreadable .missing

def sampleFiles : Files := .ofSource sampleSource fun path => path.is "/dev/stdout"

def sampleRequest : Request := { path := "small", db := some "db.json", json := true }

def limitRequest : Request :=
  { path := "small", config := some "limit.toml", json := true, verbose := true }

theorem sampleFiles_small : sampleFiles "small" = .file Session.smallBinary := by
  change sampleSource "small" = _
  exact if_pos (by decide +kernel)

theorem exists_loads_small {limit : Int}
    (h : ((Session.load "small" 0 limit (.file Session.smallBinary)).run default).1.isOk = true) :
    ∃ s, ∀ logger,
      ((Session.load "small" 0 limit (sampleFiles "small")).run logger).1 = .ok s := by
  rw [sampleFiles_small]
  cases hload : ((Session.load "small" 0 limit (.file Session.smallBinary)).run default).1 with
  | error failure =>
    rw [hload] at h
    cases h
  | ok s => exact ⟨s, fun logger => hload ▸ Session.load_deaf ..⟩

end ImportStubs.Command
