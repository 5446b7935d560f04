import ImportStubs.Proofs.Elf.Closing
import ImportStubs.Proofs.Session.Chains

/-!
# Loading does not show the piece size

Two assemblies are alike when they differ only in the piece size and the remembered tables of their
images. Every step of an assembly takes alike assemblies to alike ones, with one result and one
logger, and opening a file makes alike images. Hence two loads with different piece sizes end in the
same way.
-/

namespace ImportStubs

namespace Image

/-- The image with another piece size. -/
def resized (pieceSize : Int) (image : Image) : Image := { image with pieceSize }

theorem readSections_resized (pieceSize : Int) (image : Image) (index count : Nat) :
    (image.resized pieceSize).readSections index count = image.readSections index count := by
  induction count generalizing index with
  | zero => rfl
  | succ count ih =>
    have hread : (image.resized pieceSize).readSection index = image.readSection index := rfl
    rw [readSections, readSections, hread, ih]

theorem sectionTable_resized (pieceSize : Int) (image : Image) :
    (image.resized pieceSize).sectionTable = image.sectionTable := by
  have hread : (image.resized pieceSize).readSection 0 = image.readSection 0 := rfl
  unfold sectionTable
  simp only [readSections_resized, hread]
  rfl

theorem stringAt_resized (pieceSize index offset : Int) (image : Image) :
    (stringAt index offset).run.run (image.resized pieceSize) =
      (((stringAt index offset).run.run image).1,
        ((stringAt index offset).run.run image).2.resized pieceSize) := by
  have hrun : ∀ image, (stringAt index offset).run.run image = stringAt index offset image :=
    fun _ => rfl
  have htables : (image.resized pieceSize).tables = image.tables := rfl
  have htable : (image.resized pieceSize).stringTable index = image.stringTable index := rfl
  rw [hrun, hrun, stringAt, stringAt, htables, htable]
  cases image.tables.lookup index with
  | some table => rfl
  | none => cases image.stringTable index <;> rfl

theorem nameSections_resized (pieceSize table : Int) (sections : List SectionHeader)
    (image : Image) :
    (nameSections table sections).run.run (image.resized pieceSize) =
      (((nameSections table sections).run.run image).1,
        ((nameSections table sections).run.run image).2.resized pieceSize) := by
  induction sections generalizing image with
  | nil => rfl
  | cons s rest ih =>
    rw [nameSections, run_bind, run_bind, stringAt_resized]
    cases (stringAt table s.nameOffset).run.run image with
    | mk result image =>
      cases result with
      | error e => rfl
      | ok name =>
        dsimp only
        rw [run_bind, run_bind, ih]
        cases (nameSections table rest).run.run image with
        | mk result image => cases result <;> rfl

theorem named_resized (pieceSize : Int) (image : Image) :
    named (image.resized pieceSize) = (named image).map (resized pieceSize) := by
  have hsections : (image.resized pieceSize).sections = image.sections := rfl
  have htable : (image.resized pieceSize).nameTable = image.nameTable := rfl
  rw [named_eq, named_eq, hsections, htable]
  split
  · rw [nameSections_resized]
    generalize (nameSections image.nameTable _).run.run image = found
    cases found with
    | mk result image => cases result <;> rfl
  · rfl

theorem openAt_resized (path : Text) (limit : Int) (source : Source) (c₁ c₂ : Int) :
    openAt path c₂ limit source = (openAt path c₁ limit source).map (resized c₂) := by
  rw [openAt_eq, openAt_eq]
  cases Source.checkPath path with
  | error cause => rfl
  | ok _ =>
    cases source.read with
    | error failure => rfl
    | ok bytes =>
      dsimp only
      split_ifs
      · rfl
      · cases checkHeader bytes with
        | error cause => rfl
        | ok header =>
          have hbare : ∀ sections,
              bare path c₂ bytes header sections =
                (bare path c₁ bytes header sections).resized c₂ := fun _ => rfl
          dsimp only
          rw [hbare, sectionTable_resized]
          cases (bare path c₁ bytes header []).sectionTable with
          | error e => rfl
          | ok sections => exact named_resized c₂ (bare path c₁ bytes header sections)

end Image

namespace Session

/-- The same findings, from images of one file. -/
structure Alike (a b : Assembly) : Prop where
  image_eq : b.image = { a.image with pieceSize := b.image.pieceSize, tables := b.image.tables }
  left : a.image.Readable
  right : b.image.Readable
  stubs_eq : b.stubs = a.stubs
  stubSections_eq : b.stubSections = a.stubSections
  symbols_eq : b.symbols = a.symbols
  symbolSection_eq : b.symbolSection = a.symbolSection

namespace Alike

variable {a b : Assembly} (h : Alike a b)
include h

theorem scanOf_eq (size : Nat) (s : SectionHeader) :
    b.image.scanOf size s = a.image.scanOf size s := by
  rw [h.image_eq]
  rfl

theorem stubsIn_eq (kind : StubKind) (s : SectionHeader) :
    b.image.stubsIn kind s = a.image.stubsIn kind s := by
  rw [h.image_eq]
  rfl

theorem symbolsIn_eq (s : SectionHeader) : b.image.symbolsIn s = a.image.symbolsIn s := by
  rw [h.image_eq]
  rfl

theorem namedSections_eq : b.image.namedSections = a.image.namedSections := by
  rw [h.image_eq]
  rfl

end Alike

variable {α β γ : Type}

/-- From alike assemblies the step ends with one result, one logger and alike assemblies. -/
def Blind (step : Step α) : Prop :=
  ∀ ⦃a b : Assembly⦄ (logger : Logger), Alike a b → ∃ result logger' a' b',
    perform step a logger = ((result, a'), logger') ∧
      perform step b logger = ((result, b'), logger') ∧ Alike a' b'

theorem blind_pure (value : α) : Blind (pure value) := by
  intro a b logger h
  exact ⟨.ok value, logger, a, b, rfl, rfl, h⟩

theorem blind_fail (cause : LoadFault) : Blind (fail cause : Step α) := by
  intro a b logger h
  exact ⟨_, logger, a, b, rfl, rfl, h⟩

theorem Blind.bind {step : Step α} {next : α → Step β} (hstep : Blind step)
    (hnext : ∀ value, Blind (next value)) :
    Blind (step >>= next) := by
  intro a b logger h
  obtain ⟨result, logger', a', b', hleft, hright, h'⟩ := hstep logger h
  rw [perform_bind, perform_bind, hleft, hright]
  cases result with
  | error e => exact ⟨.error e, logger', a', b', rfl, rfl, h'⟩
  | ok value => exact hnext value logger' h'

theorem inherited_blind : Inherited Blind := ⟨blind_pure, .bind⟩

theorem blind_loadStubs (kind : StubKind) (s : SectionHeader) : Blind (loadStubs kind s) := by
  intro a b logger h
  rw [perform_loadStubs kind s h.left.pieceSize_nonneg,
    perform_loadStubs kind s h.right.pieceSize_nonneg,
    h.stubsIn_eq, h.stubs_eq, h.stubSections_eq]
  have hmark : Alike (a.markStubs kind s) (b.markStubs kind s) := by
    refine { h with stubSections_eq := ?_ }
    rw [Assembly.markStubs, Assembly.markStubs, h.stubSections_eq]
  split_ifs
  · exact ⟨_, _, _, _, rfl, rfl, h⟩
  · cases a.image.stubsIn kind s with
    | error e => exact ⟨_, _, _, _, rfl, rfl, hmark⟩
    | ok stubs => exact ⟨_, _, _, _, rfl, rfl, { hmark with stubs_eq := rfl }⟩

theorem blind_loadSymbols (s : SectionHeader) : Blind (loadSymbols s) := by
  intro a b logger h
  obtain ⟨left, hleft, hrunLeft⟩ := perform_loadSymbols s h.left logger
  obtain ⟨right, hright, hrunRight⟩ := perform_loadSymbols s h.right logger
  rw [hrunLeft, hrunRight, h.symbolsIn_eq, h.symbols_eq]
  have hmark : Alike ((a.markSymbols s).remember left) ((b.markSymbols s).remember right) := by
    refine ⟨?_, hleft, hright, h.stubs_eq, h.stubSections_eq, h.symbols_eq, rfl⟩
    simp only [Assembly.remember, Assembly.markSymbols]
    rw [h.image_eq]
  split_ifs
  · exact ⟨_, _, _, _, rfl, rfl, h⟩
  · cases a.image.symbolsIn s with
    | error e => exact ⟨_, _, _, _, rfl, rfl, hmark⟩
    | ok symbols => exact ⟨_, _, _, _, rfl, rfl, { hmark with symbols_eq := rfl }⟩

theorem blind_loadSection (s : SectionHeader) : Blind (loadSection s) :=
  inherited_blind.loadSection blind_loadStubs blind_loadSymbols s

theorem blind_extendSymbols (symbols : List Symbol) (s : SectionHeader) :
    Blind (extendSymbols symbols s) := by
  intro a b logger h
  rw [perform_extendSymbols symbols s h.left.pieceSize_nonneg,
    perform_extendSymbols symbols s h.right.pieceSize_nonneg,
    h.scanOf_eq, h.symbolSection_eq]
  split_ifs
  · exact ⟨_, _, _, _, rfl, rfl, h⟩
  · cases a.image.scanOf 4 s with
    | error e => exact ⟨_, _, _, _, rfl, rfl, h⟩
    | ok scan =>
      dsimp only
      cases (Symbol.extendFrom scan.fault symbols scan.records).2 with
      | error cause =>
        exact ⟨_, _, _, _, rfl, rfl, { h with symbols_eq := rfl, symbolSection_eq := rfl }⟩
      | ok count =>
        exact ⟨_, _, _, _, rfl, rfl, { h with symbols_eq := rfl, symbolSection_eq := rfl }⟩

theorem blind_correlateKind (symbols : List Symbol) (kind : StubKind) :
    Blind (correlateKind symbols kind) := by
  intro a b logger h
  rw [perform_correlateKind, perform_correlateKind, h.stubs_eq, h.stubSections_eq]
  split_ifs
  · exact ⟨_, _, _, _, rfl, rfl, h⟩
  · dsimp only
    cases (Correlation.correlate (a.stubSections.get kind) kind.symbolKind symbols
      (a.stubs.get kind)).2 with
    | error cause =>
      exact ⟨_, _, _, _, rfl, rfl, { h with stubs_eq := rfl, stubSections_eq := rfl }⟩
    | ok attached =>
      exact ⟨_, _, _, _, rfl, rfl, { h with stubs_eq := rfl, stubSections_eq := rfl }⟩

theorem blind_assemble : Blind assemble := by
  intro a b logger h
  unfold assemble
  rw [perform_bind, perform_bind, perform_get, perform_get]
  dsimp only
  rw [h.namedSections_eq]
  obtain ⟨result, logger', a', b', hleft, hright, h'⟩ :=
    inherited_blind.forM blind_loadSection a.image.namedSections logger h
  rw [perform_bind, perform_bind, hleft, hright]
  cases result with
  | error e => exact ⟨_, _, _, _, rfl, rfl, h'⟩
  | ok _ =>
    dsimp only
    rw [perform_bind, perform_bind, perform_get, perform_get]
    dsimp only
    rw [h'.stubSections_eq, h'.symbols_eq]
    split_ifs
    · exact blind_fail .noStubSections logger' h'
    · cases a'.symbols with
      | none => exact blind_fail .missingSymbolTable logger' h'
      | some symbols =>
        refine Blind.bind ?_ ?_ logger' h'
        · exact inherited_blind.foldlM blind_extendSymbols _ symbols
        · intro symbols
          exact inherited_blind.forM (blind_correlateKind symbols) StubKind.all

/-- The sessions hold the same stubs with their symbols, the same symbol table and the same section
positions. -/
structure SameContents (s t : Session) : Prop where
  path_eq : s.path = t.path
  released_eq : s.released = t.released
  stubs_eq : s.stubs = t.stubs
  stubSections_eq : s.stubSections = t.stubSections
  symbols_eq : s.symbols = t.symbols

/-- Both loads end with a session, or both with the same error. -/
inductive SameOutcome : Except Failure Session → Except Failure Session → Prop
  | loaded {s t : Session} : SameContents s t → SameOutcome (.ok s) (.ok t)
  | failed {f g : Failure} : f.error = g.error → SameOutcome (.error f) (.error g)

theorem Alike.sameContents {a b : Assembly} (h : Alike a b) :
    SameContents (ofAssembly a) (ofAssembly b) := by
  have hpath : (ofAssembly a).path = (ofAssembly b).path := by
    simp only [path, ofAssembly]
    rw [h.image_eq]
  refine ⟨hpath, rfl, h.stubs_eq.symm, h.stubSections_eq.symm, ?_⟩
  simp only [ofAssembly, h.symbols_eq]

theorem SameContents.literal_eq {s t : Session} (h : SameContents s t) : s.literal = t.literal := by
  simp only [literal, h.path_eq, h.released_eq, h.stubs_eq, h.symbols_eq]

/-- The report of a failure does not look at the image. -/
theorem reportFailure_congr (path : Text) {f g : Failure} (h : f.error = g.error)
    (logger : Logger) :
    ((reportFailure path f).run logger).1.error = ((reportFailure path g).run logger).1.error ∧
      ((reportFailure path f).run logger).2 = ((reportFailure path g).run logger).2 := by
  obtain ⟨error, left⟩ := f
  obtain ⟨_, right⟩ := g
  obtain rfl : error = _ := h
  cases error <;> exact ⟨rfl, rfl⟩

/-- A load ends in the same way and logs the same, whatever the size of the pieces that payloads
come in. -/
theorem load_pieceSize (path : Text) (limit : Int) (source : Source) (logger : Logger) (c₁ c₂ : ℕ) :
    SameOutcome ((load path c₁ limit source).run logger).1
      ((load path c₂ limit source).run logger).1 ∧
      ((load path c₁ limit source).run logger).2 = ((load path c₂ limit source).run logger).2 := by
  have hresized := Image.openAt_resized path limit source c₁ c₂
  rw [load_run, load_run]
  cases hopening : Image.opening path c₁ limit source with
  | error failure =>
    rw [Image.openAt_eq_error_iff.mpr ⟨failure, hopening, rfl⟩] at hresized
    obtain ⟨other, hother, herror⟩ := Image.openAt_eq_error_iff.mp hresized
    rw [hother]
    have hreport := reportFailure_congr path herror.symm logger
    exact ⟨.failed hreport.1, hreport.2⟩
  | ok image =>
    have hopen := Image.opening_eq_ok_iff.mp hopening
    rw [hopen] at hresized
    rw [Image.opening_eq_ok_iff.mpr hresized]
    have hleft := Image.readable_of_openAt hopen (Int.natCast_nonneg c₁)
    have hright : (image.resized c₂).Readable := ⟨hleft.sound, Int.natCast_nonneg c₂⟩
    have hstart : Alike { image } { image := image.resized c₂ } :=
      ⟨rfl, hleft, hright, rfl, rfl, rfl, rfl⟩
    obtain ⟨result, inner, a, b, hleft, hright, hab⟩ := blind_assemble (entered logger) hstart
    simp only [hleft, hright]
    cases result with
    | error error =>
      have hreport := reportFailure_congr path (f := { error, image := some a.image.close })
        (g := { error, image := some b.image.close }) rfl (left path logger inner)
      exact ⟨.failed hreport.1, hreport.2⟩
    | ok _ =>
      have hsame := hab.sameContents
      refine ⟨.loaded hsame, ?_⟩
      simp only [finish, hsame.literal_eq]
      rfl

end Session
end ImportStubs
