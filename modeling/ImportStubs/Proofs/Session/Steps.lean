import ImportStubs.Proofs.Elf.Reading
import ImportStubs.Session

/-!
# What one step of an assembly does

A step ends with a result, with what has been found by then, and with a logger. For every step that
handles a section there is one equation for all of this. It speaks of whole payloads and of strings
that are read afresh, so that neither the piece size nor the remembered tables stand in what follows
from it.
-/

namespace ImportStubs

namespace Session

variable {α β : Type}

/-- The result of a step, what was found by then, and the logger. -/
def perform (step : Step α) (a : Assembly) (logger : Logger) :
    (Except ReadError α × Assembly) × Logger :=
  (step.run.run a).run logger

@[simp] theorem perform_pure (value : α) (a : Assembly) (logger : Logger) :
    perform (pure value) a logger = ((.ok value, a), logger) := rfl

theorem perform_bind (step : Step α) (next : α → Step β) (a : Assembly) (logger : Logger) :
    perform (step >>= next) a logger =
      match perform step a logger with
      | ((.ok value, a), logger) => perform (next value) a logger
      | ((.error e, a), logger) => ((.error e, a), logger) := by
  simp only [perform, ExceptT.run_bind, StateT.run_bind]
  cases (step.run.run a).run logger with
  | mk found logger =>
    cases found with
    | mk result a => cases result <;> rfl

@[simp] theorem perform_get (a : Assembly) (logger : Logger) :
    perform (get : Step Assembly) a logger = ((.ok a, a), logger) := rfl

@[simp] theorem perform_set (a b : Assembly) (logger : Logger) :
    perform (set b : Step PUnit) a logger = ((.ok ⟨⟩, b), logger) := rfl

@[simp] theorem perform_modify (f : Assembly → Assembly) (a : Assembly) (logger : Logger) :
    perform (modify f : Step PUnit) a logger = ((.ok ⟨⟩, f a), logger) := rfl

@[simp] theorem perform_throw (e : ReadError) (a : Assembly) (logger : Logger) :
    perform (throw e : Step α) a logger = ((.error e, a), logger) := rfl

@[simp] theorem perform_fail (cause : LoadFault) (a : Assembly) (logger : Logger) :
    perform (fail cause : Step α) a logger = ((.error (.load ⟨cause, none⟩), a), logger) := rfl

@[simp] theorem perform_ask (question : Image → Except ReadError α) (a : Assembly)
    (logger : Logger) :
    perform (ask question) a logger = ((question a.image, a), logger) := by
  rw [ask, perform_bind, perform_get]
  dsimp only
  cases question a.image <;> rfl

theorem perform_onImage (action : Image.Action α) (a : Assembly) (logger : Logger) :
    perform (onImage action) a logger =
      (((action.run.run a.image).1, { a with image := (action.run.run a.image).2 }), logger) := by
  rw [onImage, perform_bind, perform_get]
  dsimp only
  cases action.run.run a.image with
  | mk result image => cases result <;> rfl

/-- The logger after a note. -/
def noted (message : Text) (logger : Logger) : Logger := ((Logger.debug message).run logger).2

/-- The logger after some notes. -/
def notedAll (messages : List Text) (logger : Logger) : Logger :=
  messages.foldl (fun logger message => noted message logger) logger

theorem notedAll_append (before after : List Text) (logger : Logger) :
    notedAll (before ++ after) logger = notedAll after (notedAll before logger) :=
  List.foldl_append

@[simp] theorem perform_note (message : Text) (a : Assembly) (logger : Logger) :
    perform (note message) a logger = ((.ok ⟨⟩, a), noted message logger) := rfl

/-- Whenever the step succeeds, the condition holds of its value and of what was found by then. -/
def Yields (a : Assembly) (step : Step α) (post : α → Assembly → Prop) : Prop :=
  ∀ ⦃logger value b logger'⦄, perform step a logger = ((.ok value, b), logger') → post value b

theorem yields_pure {a : Assembly} {value : α} {post : α → Assembly → Prop} (h : post value a) :
    Yields a (pure value) post := by
  intro logger value b logger' hrun
  cases hrun
  exact h

theorem yields_fail {a : Assembly} {cause : LoadFault} {post : α → Assembly → Prop} :
    Yields a (fail cause) post := by
  intro logger value b logger' hrun
  cases hrun

theorem Yields.bind {a : Assembly} {step : Step α} {next : α → Step β}
    {middle : α → Assembly → Prop} {post : β → Assembly → Prop} (hstep : Yields a step middle)
    (hnext : ∀ value b, middle value b → Yields b (next value) post) :
    Yields a (step >>= next) post := by
  intro logger value b logger' hrun
  rw [perform_bind] at hrun
  rcases hfirst : perform step a logger with ⟨⟨result, c⟩, inner⟩
  rw [hfirst] at hrun
  cases result with
  | error e => cases hrun
  | ok first => exact hnext first c (hstep hfirst) hrun

theorem Yields.weaken {a : Assembly} {step : Step α} {post weaker : α → Assembly → Prop}
    (h : Yields a step post) (hpost : ∀ value b, post value b → weaker value b) :
    Yields a step weaker := by
  intro logger value b logger' hrun
  exact hpost value b (h hrun)

/-- A loop over positions keeps what each of its steps establishes for the next position. -/
theorem yields_forM_range' {step : ℕ → Step PUnit} (invariant : ℕ → Assembly → Prop)
    {start count : ℕ}
    (hstep : ∀ i a, start ≤ i → i < start + count → invariant i a →
      Yields a (step i) fun _ => invariant (i + 1))
    {a : Assembly} (h : invariant start a) :
    Yields a ((List.range' start count).forM step) fun _ => invariant (start + count) := by
  induction count generalizing start a with
  | zero => exact yields_pure h
  | succ count ih =>
    have hend : start + (count + 1) = start + 1 + count := by omega
    rw [List.range'_succ, hend]
    refine (hstep start a (Nat.le_refl start) (by omega) h).bind fun _ b hb => ?_
    exact ih (fun i a hle hlt => hstep i a (by omega) (by omega)) hb

theorem Yields.get_bind {a : Assembly} {next : Assembly → Step β} {post : β → Assembly → Prop}
    (h : Yields a (next a) post) : Yields a (get >>= next) post := by
  intro logger value b logger' hrun
  rw [perform_bind, perform_get] at hrun
  exact h hrun

/-- From sound tables the step gives the answer and changes nothing but the remembered tables. -/
def Finds (image : Image) (step : Step α) (answer : Except ReadError α) : Prop :=
  ∀ (a : Assembly) (tables : List (Int × List UInt8)) (logger : Logger),
    { image with tables }.TablesSound →
    ∃ tables', { image with tables := tables' }.TablesSound ∧
      perform step { a with image := { image with tables } } logger =
        ((answer, { a with image := { image with tables := tables' } }), logger)

theorem finds_pure (image : Image) (value : α) : Finds image (pure value) (.ok value) := by
  intro a tables logger hsound
  exact ⟨tables, hsound, rfl⟩

theorem finds_throw (image : Image) (e : ReadError) :
    Finds image (throw e : Step α) (.error e) := by
  intro a tables logger hsound
  exact ⟨tables, hsound, rfl⟩

theorem finds_onImage {image : Image} {action : Image.Action α} {answer : Except ReadError α}
    (h : image.Answers action answer) : Finds image (onImage action) answer := by
  intro a tables logger hsound
  obtain ⟨tables', hsound', hrun⟩ := h tables hsound
  refine ⟨tables', hsound', ?_⟩
  rw [perform_onImage, hrun]

theorem Finds.bind {image : Image} {step : Step α} {next : α → Step β} {answer : Except ReadError α}
    {answers : α → Except ReadError β} (hstep : Finds image step answer)
    (hnext : ∀ value, Finds image (next value) (answers value)) :
    Finds image (step >>= next) (answer >>= answers) := by
  intro a tables logger hsound
  obtain ⟨tables', hsound', hrun⟩ := hstep a tables logger hsound
  rw [perform_bind, hrun]
  cases answer with
  | error e => exact ⟨tables', hsound', rfl⟩
  | ok value => exact hnext value a tables' logger hsound'

theorem Finds.mapM {image : Image} {γ : Type} {step : γ → Step α} {answer : γ → Except ReadError α}
    (h : ∀ c, Finds image (step c) (answer c)) (cs : List γ) :
    Finds image (cs.mapM step) (cs.mapM answer) := by
  induction cs with
  | nil => exact finds_pure image []
  | cons c cs ih =>
    rw [List.mapM_cons, List.mapM_cons]
    exact (h c).bind fun value => ih.bind fun values => finds_pure image (value :: values)

theorem finds_symbolOf (image : Image) (s : SectionHeader) (record : Record) :
    Finds image (Symbol.ofRecord s (fun offset => onImage (Image.stringAt s.link offset)) record)
      (image.symbolOf s record) := by
  unfold Symbol.ofRecord Image.symbolOf
  dsimp only
  split_ifs
  · exact finds_pure image _
  · exact (finds_onImage (image.answers_stringAt s.link _)).bind fun name => finds_pure image _

/-- The assembly after a stub section was taken, before its stubs are read. -/
def Assembly.markStubs (a : Assembly) (kind : StubKind) (s : SectionHeader) : Assembly :=
  { a with stubSections := a.stubSections.set kind s.index }

def stubsMessage (kind : StubKind) (s : SectionHeader) (stubs : List Stub) : Text :=
  "Loaded " ++ Text.ofNat stubs.length ++ " " ++ kind.name ++ " stubs from " ++ sectionText s ++
    " at " ++ Text.hexWord s.address

theorem perform_loadStubs (kind : StubKind) (s : SectionHeader) {a : Assembly}
    (hpiece : 0 ≤ a.image.pieceSize) (logger : Logger) :
    perform (loadStubs kind s) a logger =
      if a.stubSections.get kind ≠ 0 then
        ((.error (.load ⟨.duplicateStubSection kind, none⟩), a), logger)
      else match a.image.stubsIn kind s with
        | .error e => ((.error e, a.markStubs kind s), logger)
        | .ok stubs =>
          ((.ok (), { a.markStubs kind s with stubs := a.stubs.set kind stubs }),
            noted (stubsMessage kind s stubs) logger) := by
  have hscan := Image.scan_pieces (show 0 < Stub.entrySize by decide) hpiece s
  rw [loadStubs, perform_bind, perform_get]
  by_cases hseen : a.stubSections.get kind ≠ 0
  · simp [hseen, perform_bind]
  simp only [hseen, if_false, perform_bind, perform_modify, perform_ask, Image.stubsIn, ← hscan]
  cases a.image.pieces s with
  | error e => rfl
  | ok chunks =>
    simp only [Except.map, Stub.readTable, bind, Except.bind]
    cases (Record.scan Stub.entrySize s.size chunks).fault with
    | none => rfl
    | some cause => rfl

theorem finds_symbolsIn {image : Image} (hpiece : 0 ≤ image.pieceSize) (s : SectionHeader) :
    Finds image
      (Symbol.readTable s (ask (·.pieces s)) fun offset => onImage (Image.stringAt s.link offset))
      (image.symbolsIn s) := by
  unfold Symbol.readTable Image.symbolsIn
  cases hcount : Symbol.count s with
  | error cause => exact finds_throw image _
  | ok n =>
    dsimp only
    intro a tables logger hsound
    have hwidth : 0 < s.entrySize.toNat :=
      Int.lt_toNat.mpr (Int.lt_of_lt_of_le (by decide) (Symbol.le_entrySize_of_count hcount))
    have hscan := Image.scan_pieces hwidth hpiece s
    have hpieces : { image with tables }.pieces s = image.pieces s := rfl
    rw [perform_bind, perform_ask, hpieces, ← hscan]
    cases image.pieces s with
    | error e => exact ⟨tables, hsound, rfl⟩
    | ok chunks =>
      refine Finds.bind (Finds.mapM (finds_symbolOf image s) _) (fun symbols => ?_) a tables logger
        hsound
      cases (Record.scan s.entrySize.toNat s.size chunks).fault with
      | none => exact finds_pure image symbols
      | some cause => exact finds_throw image _

/-- The assembly after a symbol table was taken, before its symbols are read. -/
def Assembly.markSymbols (a : Assembly) (s : SectionHeader) : Assembly :=
  { a with symbolSection := s.index }

def symbolsMessage (s : SectionHeader) (symbols : List Symbol) : Text :=
  "Loaded " ++ Text.ofNat symbols.length ++ " symbols from " ++ sectionText s

def Assembly.remember (a : Assembly) (tables : List (Int × List UInt8)) : Assembly :=
  { a with image := { a.image with tables } }

theorem perform_loadSymbols (s : SectionHeader) {a : Assembly} (himage : a.image.Readable)
    (logger : Logger) :
    ∃ tables, (a.remember tables).image.Readable ∧ perform (loadSymbols s) a logger =
      if a.symbols.isSome then ((.error (.load ⟨.multipleSymbolTables, none⟩), a), logger)
      else match a.image.symbolsIn s with
        | .error e => ((.error e, (a.markSymbols s).remember tables), logger)
        | .ok symbols =>
          ((.ok (), { (a.markSymbols s).remember tables with symbols := some symbols }),
            noted (symbolsMessage s symbols) logger) := by
  obtain ⟨tables, hsound, hrun⟩ :=
    finds_symbolsIn himage.pieceSize_nonneg s (a.markSymbols s) a.image.tables logger himage.sound
  refine ⟨tables, ⟨hsound, himage.pieceSize_nonneg⟩, ?_⟩
  rw [loadSymbols, perform_bind, perform_get]
  by_cases hseen : a.symbols.isSome
  · simp [hseen, perform_bind]
  simp only [hseen, perform_bind, perform_modify, Bool.false_eq_true, if_false]
  have hstart : { a.markSymbols s with image := { a.image with tables := a.image.tables } } =
      { a with symbolSection := s.index } := rfl
  rw [hstart] at hrun
  rw [hrun]
  cases a.image.symbolsIn s with
  | error e => rfl
  | ok symbols => rfl

def indexesMessage (s : SectionHeader) (count : Nat) : Text :=
  "Resolved " ++ Text.ofNat count ++ " extended section indexes from " ++ sectionText s

theorem perform_extendSymbols (symbols : List Symbol) (s : SectionHeader) {a : Assembly}
    (hpiece : 0 ≤ a.image.pieceSize) (logger : Logger) :
    perform (extendSymbols symbols s) a logger =
      if s.link ≠ a.symbolSection then ((.ok symbols, a), logger)
      else match a.image.scanOf 4 s with
        | .error e => ((.error e, a), logger)
        | .ok scan =>
          let extended := Symbol.extendFrom scan.fault symbols scan.records
          match extended.2 with
          | .error cause =>
            ((.error (.load ⟨cause, none⟩), { a with symbols := some extended.1 }), logger)
          | .ok count =>
            ((.ok extended.1, { a with symbols := some extended.1 }),
              noted (indexesMessage s count) logger) := by
  have hscan := Image.scan_pieces (show 0 < 4 by decide) hpiece s
  rw [extendSymbols, perform_bind, perform_get]
  by_cases hlink : s.link ≠ a.symbolSection
  · simp [hlink]
  simp only [hlink, if_false, perform_bind, perform_ask, ← hscan]
  cases a.image.pieces s with
  | error e => rfl
  | ok chunks =>
    simp only [Except.map, Symbol.extendIndexes, perform_modify]
    cases (Symbol.extendFrom (Record.scan 4 s.size chunks).fault symbols
      (Record.scan 4 s.size chunks).records).2 with
    | error cause => rfl
    | ok count => rfl

/-- An index table for another symbol table changes nothing, and the right one is read in full. -/
theorem yields_extendSymbols (symbols : List Symbol) (s : SectionHeader) {a : Assembly}
    (hpiece : 0 ≤ a.image.pieceSize) :
    Yields a (extendSymbols symbols s) fun extended b =>
      s.link ≠ a.symbolSection ∧ extended = symbols ∧ b = a ∨
        s.link = a.symbolSection ∧ b = { a with symbols := some extended } ∧
          ∃ scan count, a.image.scanOf 4 s = .ok scan ∧
            Symbol.extendFrom scan.fault symbols scan.records = (extended, .ok count) := by
  intro logger extended b logger' hrun
  rw [perform_extendSymbols symbols s hpiece] at hrun
  split_ifs at hrun with hlink
  · cases hrun
    exact .inl ⟨hlink, rfl, rfl⟩
  cases hscan : a.image.scanOf 4 s with
  | error e =>
    rw [hscan] at hrun
    cases hrun
  | ok scan =>
    rw [hscan] at hrun
    dsimp only at hrun
    rcases hextended : Symbol.extendFrom scan.fault symbols scan.records with ⟨found, cause | count⟩
    · rw [hextended] at hrun
      cases hrun
    · rw [hextended] at hrun
      cases hrun
      exact .inr ⟨not_not.mp hlink, rfl, scan, count, rfl, hextended⟩

def correlatedMessage (kind : StubKind) (attached : Nat) (stubs : List Stub) : Text :=
  "Correlated " ++ Text.ofNat attached ++ " of " ++ Text.ofNat stubs.length ++ " " ++ kind.name ++
    " stubs with symbols"

theorem perform_correlateKind (symbols : List Symbol) (kind : StubKind) (a : Assembly)
    (logger : Logger) :
    perform (correlateKind symbols kind) a logger =
      if a.stubSections.get kind = 0 then ((.ok (), a), logger)
      else
        let correlated :=
          Correlation.correlate (a.stubSections.get kind) kind.symbolKind symbols
            (a.stubs.get kind)
        match correlated.2 with
        | .error e =>
          ((.error e, { a with stubs := a.stubs.set kind correlated.1 }), logger)
        | .ok attached =>
          ((.ok (), { a with stubs := a.stubs.set kind correlated.1 }),
            noted (correlatedMessage kind attached correlated.1) logger) := by
  rw [correlateKind, perform_bind, perform_get]
  by_cases habsent : a.stubSections.get kind = 0
  · simp [habsent]
  simp only [habsent, if_false, perform_bind, perform_set]
  cases (Correlation.correlate (a.stubSections.get kind) kind.symbolKind symbols
    (a.stubs.get kind)).2 with
  | error e => rfl
  | ok attached => rfl

/-- The logger inside the operation of a load. -/
def entered (logger : Logger) : Logger := { logger with operation := some "load" }

/-- The logger after the operation of a load: the time was noted, and the operation around it is
current again. -/
def left (path : Text) (outer inner : Logger) : Logger :=
  { ((Logger.Scope.timed ("load " ++ path)).leave.run inner).2 with operation := outer.operation }

/-- What a load makes of the end of its assembly. -/
def finish (path : Text) (result : Except ReadError Unit) (a : Assembly) :
    StateM Logger (Except Failure Session) :=
  match result with
  | .error error => do return .error (← reportFailure path { error, image := some a.image.close })
  | .ok () => do
    Logger.debug ("Loaded " ++ (ofAssembly a).literal)
    return .ok (ofAssembly a)

theorem load_run (path : Text) (pieceSize limit : Int) (source : Source) (logger : Logger) :
    (load path pieceSize limit source).run logger =
      match Image.opening path pieceSize limit source with
      | .error failure =>
        (.error ((reportFailure path failure).run logger).1,
          ((reportFailure path failure).run logger).2)
      | .ok image =>
        let found := perform assemble { image } (entered logger)
        (finish path found.1.1 found.1.2).run (left path logger found.2) := by
  unfold load
  cases Image.opening path pieceSize limit source with
  | error failure => rfl
  | ok image => rfl

/-- A load that succeeds has opened its image and finished its assembly. -/
theorem exists_assemble_of_load {path : Text} {pieceSize limit : Int} {source : Source}
    {logger logger' : Logger} {s : Session}
    (h : (load path pieceSize limit source).run logger = (.ok s, logger')) :
    ∃ image a inner, Image.opening path pieceSize limit source = .ok image ∧
      perform assemble { image } (entered logger) = ((.ok (), a), inner) ∧ s = ofAssembly a := by
  rw [load_run] at h
  cases hopening : Image.opening path pieceSize limit source with
  | error failure =>
    rw [hopening] at h
    cases h
  | ok image =>
    rw [hopening] at h
    dsimp only at h
    rcases hrun : perform assemble { image } (entered logger) with ⟨⟨result, a⟩, inner⟩
    rw [hrun] at h
    cases result with
    | error error => cases h
    | ok _ =>
      cases h
      exact ⟨image, a, inner, rfl, hrun, rfl⟩

end Session
end ImportStubs
