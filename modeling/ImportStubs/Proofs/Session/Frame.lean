import ImportStubs.Proofs.Session.Chains

/-!
# What an assembly leaves of its image

No step of an assembly changes the image but for the string tables that it remembers, whether the
step succeeds or fails. So at every moment the image is still the one that was opened.
-/

namespace ImportStubs.Session

variable {α β : Type} {image : Image}

/-- The image is the given one, up to remembered tables, and it answers as its file does. -/
structure Retained (image : Image) (a : Assembly) : Prop where
  readable : a.image.Readable
  image_eq : ∃ tables, a.image = { image with tables }

namespace Retained

variable {a : Assembly}

theorem start (h : image.Readable) : Retained image { image } := ⟨h, image.tables, rfl⟩

theorem path_eq (h : Retained image a) : a.image.path = image.path := by
  obtain ⟨tables, heq⟩ := h.image_eq
  rw [heq]

theorem closed_eq (h : Retained image a) : a.image.closed = image.closed := by
  obtain ⟨tables, heq⟩ := h.image_eq
  rw [heq]

theorem bytes_eq (h : Retained image a) : a.image.bytes = image.bytes := by
  obtain ⟨tables, heq⟩ := h.image_eq
  rw [heq]

theorem remember {tables : List (Int × List UInt8)} (h : Retained image a)
    (hreadable : (a.remember tables).image.Readable) : Retained image (a.remember tables) := by
  obtain ⟨_, heq⟩ := h.image_eq
  exact ⟨hreadable, tables, by rw [Assembly.remember, heq]⟩

end Retained

/-- However the step ends, the image is retained. -/
def Retains (image : Image) (step : Step α) : Prop :=
  ∀ a logger, Retained image a → Retained image (perform step a logger).1.2

theorem retains_pure (value : α) : Retains image (pure value) := fun _ _ h => h

theorem retains_fail (cause : LoadFault) : Retains image (fail cause : Step α) := fun _ _ h => h

theorem Yields.retained {a : Assembly} {step : Step α} {post : α → Assembly → Prop}
    (h : Yields a step post) (hstep : Retains image step) (ha : Retained image a) :
    Yields a step fun value b => post value b ∧ Retained image b := by
  intro logger value b logger' hrun
  have hretained := hstep a logger ha
  rw [hrun] at hretained
  exact ⟨h hrun, hretained⟩

theorem Retains.bind {step : Step α} {next : α → Step β} (hstep : Retains image step)
    (hnext : ∀ value, Retains image (next value)) : Retains image (step >>= next) := by
  intro a logger h
  have hfirst := hstep a logger h
  rw [perform_bind]
  generalize perform step a logger = found at hfirst ⊢
  rcases found with ⟨⟨result, b⟩, inner⟩
  cases result with
  | error e => exact hfirst
  | ok value => exact hnext value b inner hfirst

theorem inherited_retains : Inherited (Retains image) := ⟨retains_pure, .bind⟩

theorem retains_loadStubs (kind : StubKind) (s : SectionHeader) :
    Retains image (loadStubs kind s) := by
  intro a logger h
  rw [perform_loadStubs kind s h.readable.pieceSize_nonneg]
  split_ifs
  · exact h
  · cases a.image.stubsIn kind s <;> exact ⟨h.readable, h.image_eq⟩

theorem retains_loadSymbols (s : SectionHeader) : Retains image (loadSymbols s) := by
  intro a logger h
  obtain ⟨tables, hreadable, hperform⟩ := perform_loadSymbols s h.readable logger
  have hremembered := h.remember hreadable
  rw [hperform]
  split_ifs
  · exact h
  · cases a.image.symbolsIn s <;> exact ⟨hremembered.readable, hremembered.image_eq⟩

theorem retains_loadSection (s : SectionHeader) : Retains image (loadSection s) :=
  inherited_retains.loadSection retains_loadStubs retains_loadSymbols s

theorem retains_extendSymbols (symbols : List Symbol) (s : SectionHeader) :
    Retains image (extendSymbols symbols s) := by
  intro a logger h
  rw [perform_extendSymbols symbols s h.readable.pieceSize_nonneg]
  split_ifs
  · exact h
  · cases a.image.scanOf 4 s with
    | error e => exact h
    | ok scan =>
      dsimp only
      cases (Symbol.extendFrom scan.fault symbols scan.records).2 <;>
        exact ⟨h.readable, h.image_eq⟩

theorem retains_correlateKind (symbols : List Symbol) (kind : StubKind) :
    Retains image (correlateKind symbols kind) := by
  intro a logger h
  rw [perform_correlateKind]
  split_ifs
  · exact h
  · dsimp only
    cases (Correlation.correlate (a.stubSections.get kind) kind.symbolKind symbols
      (a.stubs.get kind)).2 <;> exact ⟨h.readable, h.image_eq⟩

theorem retains_assemble : Retains image assemble :=
  inherited_retains.assemble (fun _ _ h => h) retains_fail retains_loadSection
    retains_extendSymbols retains_correlateKind

end ImportStubs.Session
