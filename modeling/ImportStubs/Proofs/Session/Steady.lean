import ImportStubs.Proofs.Elf.Acceptance
import ImportStubs.Proofs.Elf.Closing
import ImportStubs.Proofs.Session.Chains

/-!
# Steps that are deaf to the log

The steps of an assembly take notes in a logger and never read it. So the end of a load depends on
the file and its path alone, whatever is logged before it and by whom. Whichever way a step ends,
the image is the one that it began with, up to the string tables that are remembered.
-/

namespace ImportStubs.Session

/-- However the step ends, the image differs in its remembered tables only, any other logger would
have seen the same end, and the logger has some more notes. -/
structure Steady {α : Type} (step : Step α) : Prop where
  image : ∀ a logger, ∃ tables, (perform step a logger).1.2.image = { a.image with tables }
  deaf : ∀ a logger other, (perform step a logger).1 = (perform step a other).1
  notes : ∀ a logger, ∃ messages, (perform step a logger).2 = notedAll messages logger

section Steady

variable {α β : Type}

/-- A step that does not look at the logger at all. -/
theorem Steady.of_perform {step : Step α} {found : Assembly → Except ReadError α × Assembly}
    (hfound : ∀ a logger, (perform step a logger).1 = found a)
    (himage : ∀ a, ∃ tables, (found a).2.image = { a.image with tables }) (messages : List Text)
    (hnotes : ∀ a logger, (perform step a logger).2 = notedAll messages logger) : Steady step where
  image a logger := by
    rw [hfound]
    exact himage a
  deaf a logger other := by rw [hfound, hfound]
  notes a logger := ⟨messages, hnotes a logger⟩

theorem steady_pure (value : α) : Steady (pure value) :=
  .of_perform (fun _ _ => rfl) (fun a => ⟨a.image.tables, rfl⟩) [] fun _ _ => rfl

theorem steady_fail (cause : LoadFault) : Steady (fail cause : Step α) :=
  .of_perform (fun _ _ => rfl) (fun a => ⟨a.image.tables, rfl⟩) [] fun _ _ => rfl

theorem steady_throw (e : ReadError) : Steady (throw e : Step α) :=
  .of_perform (fun _ _ => rfl) (fun a => ⟨a.image.tables, rfl⟩) [] fun _ _ => rfl

theorem steady_note (message : Text) : Steady (note message) :=
  .of_perform (fun _ _ => rfl) (fun a => ⟨a.image.tables, rfl⟩) [message] fun _ _ => rfl

theorem steady_ask (question : Image → Except ReadError α) : Steady (ask question) :=
  .of_perform (fun a logger => by rw [perform_ask]) (fun a => ⟨a.image.tables, rfl⟩) []
    fun a logger => by
      rw [perform_ask]
      rfl

theorem steady_stringAt (index offset : Int) :
    Steady (onImage (Image.stringAt index offset)) := by
  refine .of_perform (fun a logger => by rw [perform_onImage]) (fun a => ?_) [] fun a logger => ?_
  · change ∃ tables, (Image.stringAt index offset a.image).2 = { a.image with tables }
    unfold Image.stringAt
    split
    · exact ⟨_, rfl⟩
    · split <;> exact ⟨_, rfl⟩
  · rw [perform_onImage]
    rfl

theorem Steady.bind {step : Step α} {next : α → Step β} (hstep : Steady step)
    (hnext : ∀ value, Steady (next value)) : Steady (step >>= next) where
  image a logger := by
    obtain ⟨tables, hfirst⟩ := hstep.image a logger
    rw [perform_bind]
    rcases hrun : perform step a logger with ⟨⟨result, b⟩, inner⟩
    rw [hrun] at hfirst
    cases result with
    | error e => exact ⟨tables, hfirst⟩
    | ok value =>
      obtain ⟨tables', hrest⟩ := (hnext value).image b inner
      have himage : b.image = { a.image with tables } := hfirst
      rw [himage] at hrest
      exact ⟨tables', hrest⟩
  deaf a logger other := by
    have hfirst := hstep.deaf a logger other
    rw [perform_bind, perform_bind]
    rcases hrun : perform step a logger with ⟨⟨result, b⟩, inner⟩
    rcases hother : perform step a other with ⟨found, outer⟩
    rw [hrun, hother] at hfirst
    obtain rfl : (result, b) = found := hfirst
    cases result with
    | error e => rfl
    | ok value => exact (hnext value).deaf b inner outer
  notes a logger := by
    obtain ⟨messages, hfirst⟩ := hstep.notes a logger
    rw [perform_bind]
    rcases hrun : perform step a logger with ⟨⟨result, b⟩, inner⟩
    rw [hrun] at hfirst
    obtain rfl : inner = notedAll messages logger := hfirst
    cases result with
    | error e => exact ⟨messages, rfl⟩
    | ok value =>
      obtain ⟨more, hrest⟩ := (hnext value).notes b (notedAll messages logger)
      exact ⟨messages ++ more, hrest.trans (notedAll_append messages more logger).symm⟩

theorem inherited_steady : Inherited Steady := ⟨steady_pure, .bind⟩

theorem steady_get : Steady (get : Step Assembly) :=
  .of_perform (fun _ _ => rfl) (fun a => ⟨a.image.tables, rfl⟩) [] fun _ _ => rfl

theorem steady_modify {f : Assembly → Assembly} (hf : ∀ a, (f a).image = a.image) :
    Steady (modify f : Step PUnit) :=
  .of_perform (fun _ _ => rfl) (fun a => ⟨a.image.tables, hf a⟩) [] fun _ _ => rfl

end Steady

theorem steady_loadStubs (kind : StubKind) (s : SectionHeader) :
    Steady (loadStubs kind s) := by
  refine steady_get.bind fun a => ?_
  dsimp only
  refine inherited_steady.guard (steady_fail _) fun _ => ?_
  refine .bind (steady_modify fun _ => rfl) fun _ => (steady_ask _).bind fun chunks => ?_
  cases Stub.readTable kind s chunks with
  | error cause => exact steady_fail cause
  | ok stubs => exact .bind (steady_modify fun _ => rfl) fun _ => steady_note _

theorem steady_symbolOf (s : SectionHeader) (record : Record) :
    Steady (Symbol.ofRecord s (fun offset => onImage (Image.stringAt s.link offset))
      record) := by
  unfold Symbol.ofRecord
  dsimp only
  split_ifs
  · exact steady_pure _
  · exact (steady_stringAt s.link _).bind fun name => steady_pure _

theorem steady_readSymbols (s : SectionHeader) :
    Steady (Symbol.readTable s (ask (·.pieces s)) fun offset =>
      onImage (Image.stringAt s.link offset)) := by
  unfold Symbol.readTable
  cases Symbol.count s with
  | error cause => exact steady_throw _
  | ok n =>
    refine (steady_ask _).bind fun chunks => ?_
    refine (inherited_steady.mapM (steady_symbolOf s) _).bind fun symbols => ?_
    cases (Record.scan s.entrySize.toNat s.size chunks).fault with
    | none => exact steady_pure symbols
    | some cause => exact steady_throw _

theorem steady_loadSymbols (s : SectionHeader) : Steady (loadSymbols s) := by
  refine steady_get.bind fun a => ?_
  dsimp only
  refine inherited_steady.guard (steady_fail _) fun _ => ?_
  refine .bind (steady_modify fun _ => rfl) fun _ =>
    (steady_readSymbols s).bind fun symbols => ?_
  exact .bind (steady_modify fun _ => rfl) fun _ => steady_note _

theorem steady_loadSection (s : SectionHeader) : Steady (loadSection s) :=
  inherited_steady.loadSection steady_loadStubs steady_loadSymbols s

theorem steady_extendSymbols (symbols : List Symbol) (s : SectionHeader) :
    Steady (extendSymbols symbols s) := by
  refine steady_get.bind fun a => ?_
  dsimp only
  split_ifs
  · exact steady_pure symbols
  · refine (steady_ask _).bind fun chunks => ?_
    rcases Symbol.extendIndexes symbols s chunks with ⟨extended, result⟩
    refine .bind (steady_modify fun _ => rfl) fun _ => ?_
    cases result with
    | error cause => exact steady_fail cause
    | ok count => exact (steady_note _).bind fun _ => steady_pure _

theorem steady_correlateKind (symbols : List Symbol) (kind : StubKind) :
    Steady (correlateKind symbols kind) := by
  constructor
  · intro a logger
    rw [perform_correlateKind]
    split_ifs
    · exact ⟨a.image.tables, rfl⟩
    · dsimp only
      cases (Correlation.correlate (a.stubSections.get kind) kind.symbolKind symbols
        (a.stubs.get kind)).2 <;> exact ⟨a.image.tables, rfl⟩
  · intro a logger other
    rw [perform_correlateKind, perform_correlateKind]
    split_ifs
    · rfl
    · dsimp only
      cases (Correlation.correlate (a.stubSections.get kind) kind.symbolKind symbols
        (a.stubs.get kind)).2 <;> rfl
  · intro a logger
    rw [perform_correlateKind]
    split_ifs
    · exact ⟨[], rfl⟩
    · dsimp only
      cases (Correlation.correlate (a.stubSections.get kind) kind.symbolKind symbols
        (a.stubs.get kind)).2 with
      | error cause => exact ⟨[], rfl⟩
      | ok attached => exact ⟨[_], rfl⟩

theorem steady_assemble : Steady assemble :=
  inherited_steady.assemble steady_get steady_fail steady_loadSection steady_extendSymbols
    steady_correlateKind

section

variable {s : Session} {path : Text} {pieceSize limit : Int} {source : Source}
  {logger logger' : Logger} (h : (load path pieceSize limit source).run logger = (.ok s, logger'))
include h

/-- A loaded session has the image that was opened, and it is not released. -/
theorem exists_openAt_of_load : ∃ image tables,
    Image.openAt path pieceSize limit source = .ok image ∧ s.image = { image with tables } ∧
      s.released = false := by
  obtain ⟨image, a, inner, hopening, hrun, rfl⟩ := exists_assemble_of_load h
  obtain ⟨tables, himage⟩ := steady_assemble.image { image } (entered logger)
  rw [hrun] at himage
  exact ⟨image, tables, Image.opening_eq_ok_iff.mp hopening, himage, rfl⟩

theorem open_of_load : s.released = false ∧ s.image.closed = false := by
  obtain ⟨image, tables, hopen, himage, hreleased⟩ := exists_openAt_of_load h
  obtain ⟨file, _, _, rfl, _⟩ := Image.openAt_eq_ok hopen
  refine ⟨hreleased, ?_⟩
  rw [himage]
  exact (Image.opened_of_openAt hopen).shows.closed_eq

/-- A path that leads to a session can be encoded, and the session tells it. -/
theorem path_of_load : Source.checkPath path = .ok () ∧ s.path = path := by
  obtain ⟨image, tables, hopen, himage, -⟩ := exists_openAt_of_load h
  constructor
  · rw [Image.openAt_eq] at hopen
    cases hpath : Source.checkPath path with
    | ok _ => rfl
    | error cause =>
      rw [hpath] at hopen
      cases hopen
  · obtain ⟨file, _, _, rfl, _⟩ := Image.openAt_eq_ok hopen
    rw [Session.path, himage]
    exact (Image.opened_of_openAt hopen).path_eq

end

theorem reportFailure_deaf (path : Text) (failure : Failure) (logger other : Logger) :
    ((reportFailure path failure).run logger).1 = ((reportFailure path failure).run other).1 := by
  unfold reportFailure
  cases failure.error <;> rfl

theorem finish_deaf (path : Text) (result : Except ReadError Unit) (a : Assembly)
    (logger other : Logger) :
    ((finish path result a).run logger).1 = ((finish path result a).run other).1 := by
  cases result with
  | error error =>
    exact congrArg Except.error (reportFailure_deaf path ⟨error, some a.image.close⟩ logger other)
  | ok _ => rfl

/-- How a load ends does not depend on the logger. -/
theorem load_deaf (path : Text) (pieceSize limit : Int) (source : Source) (logger other : Logger) :
    ((load path pieceSize limit source).run logger).1 =
      ((load path pieceSize limit source).run other).1 := by
  rw [load_run, load_run]
  cases Image.opening path pieceSize limit source with
  | error failure => exact congrArg Except.error (reportFailure_deaf path failure logger other)
  | ok image =>
    dsimp only
    rw [steady_assemble.deaf { image } (entered logger) (entered other)]
    exact finish_deaf path _ _ _ _

end ImportStubs.Session
