import ImportStubs.Proofs.Resolution.Repetition
import ImportStubs.Proofs.Session.Contents
import ImportStubs.Proofs.Session.Passes
import ImportStubs.Proofs.Session.Steady

/-!
# The life of a session

A session is used by calls. It owns its image, and both are given up together: by the first release
or the first scope that is left. From then on it is fixed: what hands out decoded data is refused,
while the path and the positions of the stub sections still answer as after the load. Until then
nothing changes but the entities of the stubs, and those only by a resolution.
-/

namespace ImportStubs.Session

/-- What can be done with a session. -/
inductive Call where
  | functionStubs
  | variableStubs
  | stubsOf (kind : StubKind)
  | allStubs
  | symbolTable
  | image
  | path
  | functionSection
  | variableSection
  | sectionOf (kind : StubKind)
  | literal
  | release
  /-- A release that is asked for from outside. -/
  | releaseFunction
  | enter
  /-- The end of a scope, which an error may have brought about. -/
  | leave (failed : Bool)
  | resolve (db : NidDatabase)

inductive Answer where
  | stubs (stubs : List Stub)
  | symbols (symbols : List Symbol)
  | image (image : Image)
  | text (t : Text)
  | position (index : Int)
  | flag (b : Bool)
  | done

namespace Call

/-- Hands out decoded data. -/
def handsOut : Call → Bool
  | functionStubs | variableStubs | stubsOf _ | allStubs | symbolTable | image | resolve _ => true
  | _ => false

/-- Asks for what the file and its path fix. -/
def isFixed : Call → Bool
  | path | functionSection | variableSection | sectionOf _ => true
  | _ => false

def releases : Call → Bool
  | release | releaseFunction | leave _ => true
  | _ => false

def isResolution : Call → Bool
  | resolve _ => true
  | _ => false

end Call

/-- The answer to a call, and the session after it. -/
def call (s : Session) : Call → StateM Logger (Except Released Answer × Session)
  | .functionStubs => return ((s.stubsOf .functionStub).map .stubs, s)
  | .variableStubs => return ((s.stubsOf .variableStub).map .stubs, s)
  | .stubsOf kind => return ((s.stubsOf kind).map .stubs, s)
  | .allStubs => return (s.allStubs.map .stubs, s)
  | .symbolTable => return (s.symbolTable.map .symbols, s)
  | .image => return (s.openImage.map .image, s)
  | .path => return (.ok (.text s.path), s)
  | .functionSection => return (.ok (.position s.stubSections.functions), s)
  | .variableSection => return (.ok (.position s.stubSections.vars), s)
  | .sectionOf kind => return (.ok (.position (s.stubSections.get kind)), s)
  | .literal => return (.ok (.text s.literal), s)
  | .release | .releaseFunction | .leave _ => return (.ok .done, s.release)
  | .enter => return (.ok .done, s)
  | .resolve db => do
    match ← resolve db.lookups s with
    | .ok (t, report) => return (.ok (.flag report.allResolved), t)
    | .error e => return (.error e, s)

/-- A session after some calls. -/
def after (s : Session) (calls : List Call) : StateM Logger Session :=
  calls.foldlM (fun s c => Prod.snd <$> s.call c) s

variable {s t : Session}

theorem access_of_released {α : Type} (h : s.released = true) (part : Session → α) :
    s.access part = .error ⟨s.path⟩ := if_pos h

theorem access_of_open {α : Type} (h : s.released = false) (part : Session → α) :
    s.access part = .ok (part s) := by
  rw [access, h]
  rfl

/-- A released session refuses to be resolved before anything is looked up or logged. -/
theorem resolve_of_released (h : s.released = true) (db : ImportDatabase) (logger : Logger) :
    (resolve db s).run logger = (.error ⟨s.path⟩, logger) := by
  have hstubs : s.stubsOf .functionStub = .error ⟨s.path⟩ := access_of_released h _
  rw [resolve, Logger.withOperation_run, Logger.run_bind, resolveKind, hstubs]
  rfl

/-- A call that neither releases nor resolves leaves everything as it is. -/
theorem call_unchanged {c : Call} (hkeeps : c.releases = false) (hplain : c.isResolution = false)
    (s : Session) (logger : Logger) :
    (s.call c).run logger = ((((s.call c).run logger).1.1, s), logger) := by
  cases c with
  | release | releaseFunction | leave _ => cases hkeeps
  | resolve _ => cases hplain
  | _ => rfl

theorem call_releases {c : Call} (h : c.releases = true) (s : Session) (logger : Logger) :
    (s.call c).run logger = ((.ok .done, s.release), logger) := by
  cases c with
  | release | releaseFunction | leave _ => rfl
  | _ => cases h

theorem call_handsOut_of_released {c : Call} (hout : c.handsOut = true) (h : s.released = true)
    (logger : Logger) : (s.call c).run logger = ((.error ⟨s.path⟩, s), logger) := by
  cases c with
  | resolve db =>
    rw [call, Logger.run_bind, resolve_of_released h]
    rfl
  | functionStubs | variableStubs | stubsOf _ | allStubs | symbolTable | image =>
    have haccess : ∀ {α : Type} (part : Session → α), s.access part = .error ⟨s.path⟩ :=
      access_of_released h
    simp only [call, stubsOf, allStubs, symbolTable, openImage, haccess]
    rfl
  | _ => cases hout

theorem call_resolve_of_open (h : s.released = false) (db : NidDatabase) (logger : Logger) :
    ∃ report logger', (s.call (.resolve db)).run logger =
      ((.ok (.flag (Report.allResolved report)), s.resolved db.lookups), logger') := by
  obtain ⟨report, hresolve⟩ := resolve_run h db.lookups logger
  refine ⟨report, ((resolve db.lookups s).run logger).2, ?_⟩
  rw [call, Logger.run_bind, hresolve]
  rfl

theorem call_answers_of_open (h : s.released = false) (c : Call) (logger : Logger) :
    ∃ answer, ((s.call c).run logger).1.1 = .ok answer := by
  have haccess : ∀ {α : Type} (part : Session → α), s.access part = .ok (part s) :=
    access_of_open h
  cases c with
  | resolve db =>
    obtain ⟨report, logger', hcall⟩ := call_resolve_of_open h db logger
    exact ⟨_, by rw [hcall]⟩
  | functionStubs | variableStubs | stubsOf _ | allStubs | symbolTable | image =>
    simp only [call, stubsOf, allStubs, symbolTable, openImage, haccess]
    exact ⟨_, rfl⟩
  | _ => exact ⟨_, rfl⟩

theorem release_of_released (h : s.released = true) : s.release = s := if_pos h

theorem release_of_open (h : s.released = false) :
    s.release = { s with image := s.image.close, released := true, stubs := ⟨[], []⟩,
                         symbols := [] } := by
  rw [release, h]
  rfl

/-- Nothing happens to a released session any more. -/
theorem call_of_released (h : s.released = true) (c : Call) (logger : Logger) :
    ((s.call c).run logger).1.2 = s ∧ ((s.call c).run logger).2 = logger := by
  by_cases hreleases : c.releases = true
  · rw [call_releases hreleases, release_of_released h]
    exact ⟨rfl, rfl⟩
  · by_cases hresolution : c.isResolution = true
    · have hout : c.handsOut = true := by
        cases c with
        | resolve _ => rfl
        | _ => cases hresolution
      rw [call_handsOut_of_released hout h]
      exact ⟨rfl, rfl⟩
    · rw [call_unchanged (Bool.eq_false_iff.mpr hreleases) (Bool.eq_false_iff.mpr hresolution)]
      exact ⟨rfl, rfl⟩

/-- What a session still is after some calls on it as it was: what it owns, what it has given up,
and what it keeps in any case. -/
structure Lives (s : Session) (gone : Prop) (t : Session) : Prop where
  released_iff : t.released = true ↔ gone
  closed_eq : t.image.closed = t.released
  path_eq : t.path = s.path
  stubSections_eq : t.stubSections = s.stubSections
  keeps : t.released = false → Keeps s t
  dropped : t.released = true → t.stubs = ⟨[], []⟩ ∧ t.symbols = []

theorem Lives.call {gone : Prop} (h : Lives s gone t) (c : Call) (logger : Logger) :
    Lives s (gone ∨ c.releases = true) ((t.call c).run logger).1.2 := by
  cases hreleased : t.released with
  | true =>
    rw [(call_of_released hreleased c logger).1]
    have hgone : gone := h.released_iff.mp hreleased
    exact { h with released_iff := iff_of_true hreleased (.inl hgone) }
  | false =>
    have hstill : ¬gone := fun hgone => by simp [h.released_iff.mpr hgone] at hreleased
    by_cases hreleases : c.releases = true
    · rw [call_releases hreleases, release_of_open hreleased]
      exact ⟨iff_of_true rfl (.inr hreleases), rfl, h.path_eq, h.stubSections_eq,
        fun hopen => (Bool.noConfusion hopen), fun _ => ⟨rfl, rfl⟩⟩
    · have hnone : ¬(gone ∨ c.releases = true) := not_or.mpr ⟨hstill, hreleases⟩
      by_cases hresolution : c.isResolution = true
      · cases c with
        | resolve db =>
          obtain ⟨report, logger', hcall⟩ := call_resolve_of_open hreleased db logger
          rw [hcall]
          have hkeeps := keeps_resolved db.lookups t
          refine ⟨iff_of_false ?_ hnone, ?_, ?_, ?_, fun _ => (h.keeps hreleased).trans hkeeps, ?_⟩
          · simp [hkeeps.released_eq, hreleased]
          · rw [hkeeps.image_eq, hkeeps.released_eq, h.closed_eq]
          · rw [path, hkeeps.image_eq]
            exact h.path_eq
          · rw [hkeeps.stubSections_eq, h.stubSections_eq]
          · simp [hkeeps.released_eq, hreleased]
        | _ => cases hresolution
      · rw [call_unchanged (Bool.eq_false_iff.mpr hreleases) (Bool.eq_false_iff.mpr hresolution)]
        exact { h with released_iff := iff_of_false (by simp [hreleased]) hnone }

theorem after_cons (s : Session) (c : Call) (calls : List Call) (logger : Logger) :
    (s.after (c :: calls)).run logger =
      ((((s.call c).run logger).1.2).after calls).run ((s.call c).run logger).2 := rfl

theorem Lives.after {gone : Prop} (h : Lives s gone t) (calls : List Call) (logger : Logger) :
    Lives s (gone ∨ ∃ c ∈ calls, c.releases = true) ((t.after calls).run logger).1 := by
  induction calls generalizing t gone logger with
  | nil =>
    have hsame : ((t.after []).run logger).1 = t := rfl
    simpa [hsame] using h
  | cons c calls ih =>
    rw [after_cons]
    have hrest := ih (h.call c logger) ((t.call c).run logger).2
    simpa only [List.exists_mem_cons_iff, or_assoc] using hrest

/-- What holds of a session after some calls on it as it was loaded. -/
structure Lifecycle (s : Session) (calls : List Call) (t : Session) : Prop where
  released_iff : t.released = true ↔ ∃ c ∈ calls, c.releases = true
  closed_iff : t.image.closed = true ↔ ∃ c ∈ calls, c.releases = true
  /-- The path and the positions of the stub sections answer as after the load. -/
  fixed : ∀ c, c.isFixed = true → ∀ logger first,
    (t.call c).run logger = ((((s.call c).run first).1.1, t), logger)
  /-- Nothing happens to a released session, and no call on it is logged. -/
  final : t.released = true → ∀ c logger,
    ((t.call c).run logger).1.2 = t ∧ ((t.call c).run logger).2 = logger
  refused : t.released = true → ∀ c, c.handsOut = true → ∀ logger,
    ((t.call c).run logger).1.1 = .error ⟨s.path⟩
  /-- A release is never refused. -/
  accepted : ∀ c, c.releases = true → ∀ logger, ((t.call c).run logger).1.1 = .ok .done
  answers : t.released = false → ∀ c logger, ∃ answer, ((t.call c).run logger).1.1 = .ok answer
  /-- Until the release everything is as it was loaded, the entities of the stubs aside. -/
  keeps : t.released = false → Keeps s t
  stubs_eq : t.released = false → ∀ kind logger, ∃ stubs,
    ((t.call (.stubsOf kind)).run logger).1.1 = .ok (.stubs stubs) ∧
      stubs.map Stub.cleared = (s.stubs.get kind).map Stub.cleared
  symbols_eq : t.released = false → ∀ logger,
    ((t.call .symbolTable).run logger).1.1 = .ok (.symbols s.symbols)
  unchanged : ∀ c, c.releases = false → c.isResolution = false → ∀ logger,
    (t.call c).run logger = ((((t.call c).run logger).1.1, t), logger)
  /-- A resolution sets all entities of a stub or clears them, and changes nothing else. -/
  renewed : t.released = false → ∀ db logger,
    Keeps t ((t.call (.resolve db)).run logger).1.2 ∧
      ∀ kind, List.Forall₂ Resolution.Renewed (t.stubs.get kind)
        (((t.call (.resolve db)).run logger).1.2.stubs.get kind)

theorem call_fixed {c : Call} (h : c.isFixed = true) (hpath : t.path = s.path)
    (hsections : t.stubSections = s.stubSections) (logger first : Logger) :
    (t.call c).run logger = ((((s.call c).run first).1.1, t), logger) := by
  cases c with
  | path =>
    simp only [call, hpath]
    rfl
  | functionSection | variableSection | sectionOf _ =>
    simp only [call, hsections]
    rfl
  | _ => cases h

theorem stubs_get_resolved (db : ImportDatabase) (s : Session) (kind : StubKind) :
    (s.resolved db).stubs.get kind = (s.stubs.get kind).map (Resolution.resolved db) := by
  cases kind <;> rfl

theorem Lives.lifecycle {calls : List Call}
    (h : Lives s (∃ c ∈ calls, c.releases = true) t) : Lifecycle s calls t where
  released_iff := h.released_iff
  closed_iff := by rw [h.closed_eq, h.released_iff]
  fixed c hfixed := call_fixed hfixed h.path_eq h.stubSections_eq
  final hreleased := call_of_released hreleased
  refused hreleased c hout logger := by rw [call_handsOut_of_released hout hreleased, h.path_eq]
  accepted c hreleases logger := by rw [call_releases hreleases]
  answers hopen c logger := call_answers_of_open hopen c logger
  keeps := h.keeps
  stubs_eq hopen kind logger := by
    refine ⟨t.stubs.get kind, ?_, (h.keeps hopen).cleared_eq kind⟩
    rw [Session.call, stubsOf, access_of_open hopen]
    rfl
  symbols_eq hopen logger := by
    rw [Session.call, symbolTable, access_of_open hopen, (h.keeps hopen).symbols_eq]
    rfl
  unchanged c hkept hplain := call_unchanged hkept hplain t
  renewed hopen db logger := by
    obtain ⟨report, logger', hcall⟩ := call_resolve_of_open hopen db logger
    rw [hcall]
    refine ⟨keeps_resolved db.lookups t, fun kind => ?_⟩
    rw [stubs_get_resolved]
    exact List.forall₂_map_right_iff.mpr
      (List.forall₂_same.mpr fun stub _ => Resolution.renewed_resolved db.lookups stub)

/-- A loaded session is used up by its first release, whatever the calls before and after it are:
until then it answers every call, and afterwards nothing of it changes any more. -/
theorem lifecycle_of_load {path : Text} {pieceSize limit : Int} {source : Source}
    {logger logger' : Logger}
    (h : (load path pieceSize limit source).run logger = (.ok s, logger')) (calls : List Call)
    (first : Logger) : Lifecycle s calls ((s.after calls).run first).1 := by
  obtain ⟨hreleased, hclosed⟩ := open_of_load h
  have hstart : Lives s False s :=
    ⟨iff_of_false (by simp [hreleased]) id, hclosed.trans hreleased.symm, rfl, rfl,
      fun _ => ⟨rfl, rfl, rfl, rfl, fun _ => rfl⟩, fun hgone => by simp [hreleased] at hgone⟩
  have hend := hstart.after calls first
  rw [false_or] at hend
  exact hend.lifecycle

/-- A resolution, a scope that an error ends, and a description of what is left. -/
theorem lifecycle_smallBinary : ∃ s logger,
    (load "small" (5 : ℕ) 0 (.file smallBinary)).run quietLogger = (.ok s, logger) ∧
      Lifecycle s [.resolve .empty, .enter, .leave true, .literal]
        ((s.after [.resolve .empty, .enter, .leave true, .literal]).run quietLogger).1 := by
  obtain ⟨s, logger, h⟩ := smallBinary_loads
  exact ⟨s, logger, h, lifecycle_of_load h _ quietLogger⟩

end ImportStubs.Session
