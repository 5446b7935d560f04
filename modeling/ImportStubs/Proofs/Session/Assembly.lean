import ImportStubs.Proofs.Elf.Closing
import ImportStubs.Proofs.Session.Sections

/-!
# What a finished assembly has found

After the last section the symbols take the section indexes of all index tables for them, in the
order of the table, and are attached to the stubs of each kind. The session then holds what the
sections of its file do.
-/

namespace ImportStubs.Session

open ElfFile

variable {file : List UInt8}

theorem extended_section {a : Assembly} (hshows : a.image.Shows file) (hreadable : a.image.Readable)
    {t x : ℕ} (hsection : a.symbolSection = t)
    (htype : type file x = SectionType.extendedIndexes.number) {symbols : List Symbol}
    (hsymbols : a.symbols = some symbols) :
    Yields a (extendSymbols symbols (ElfFile.header file x)) fun extended b =>
      b = { a with symbols := some extended } ∧
        if link file x = t then
          extended = (Symbol.extendFrom none symbols (records file x 4)).1 ∧ Fits file x
        else extended = symbols := by
  have hlink : (ElfFile.header file x).link = a.symbolSection ↔ link file x = t := by
    rw [hsection]
    exact Int.ofNat_inj
  refine (yields_extendSymbols symbols _ hreadable.pieceSize_nonneg).weaken ?_
  rintro extended b (⟨hother, rfl, rfl⟩ | ⟨hsame, rfl, scan, count, hscan, hextended⟩)
  · rw [if_neg (hlink.not.mp hother), ← hsymbols]
    exact ⟨rfl, rfl⟩
  · have hdata : type file x ≠ SectionType.noBits.number := by
      rw [htype]
      decide
    obtain ⟨rfl, hfits⟩ := hshows.scanOf_header (by decide) hdata hscan
    rw [if_pos (hlink.mp hsame)]
    exact ⟨rfl, (congrArg Prod.fst hextended).symm, hfits⟩

/-- All index tables for the symbol table are applied in order. -/
theorem extended_sections {a : Assembly} (hshows : a.image.Shows file)
    (hreadable : a.image.Readable) {t : ℕ} (hsection : a.symbolSection = t) (xs : List ℕ)
    (htypes : ∀ x ∈ xs, type file x = SectionType.extendedIndexes.number) {symbols : List Symbol}
    (hsymbols : a.symbols = some symbols) :
    Yields a ((xs.map (ElfFile.header file)).foldlM extendSymbols symbols) fun extended b =>
      b = { a with symbols := some extended } ∧
        extended =
            Symbol.extendAll symbols ((xs.filter (link file · = t)).map fun x => records file x 4) ∧
          ∀ x ∈ xs, link file x = t → Fits file x := by
  induction xs generalizing symbols a with
  | nil =>
    refine yields_pure ⟨?_, rfl, fun x hx => absurd hx List.not_mem_nil⟩
    rw [← hsymbols]
  | cons x xs ih =>
    rw [List.map_cons, List.foldlM_cons]
    refine (extended_section hshows hreadable hsection (htypes x (by simp)) hsymbols).bind ?_
    rintro extended b ⟨rfl, hextended⟩
    have hrest : ∀ y ∈ xs, type file y = SectionType.extendedIndexes.number := fun y hy =>
      htypes y (List.mem_cons_of_mem _ hy)
    have hrun := ih (a := { a with symbols := some extended }) hshows hreadable hsection hrest rfl
    refine hrun.weaken ?_
    rintro final c ⟨rfl, rfl, hfits⟩
    by_cases hlink : link file x = t
    · rw [if_pos hlink] at hextended
      obtain ⟨rfl, hx⟩ := hextended
      refine ⟨rfl, ?_, List.forall_mem_cons.mpr ⟨fun _ => hx, hfits⟩⟩
      rw [List.filter_cons_of_pos (by simpa using hlink)]
      rfl
    · rw [if_neg hlink] at hextended
      rw [List.filter_cons_of_neg (by simpa using hlink), hextended]
      exact ⟨rfl, rfl, List.forall_mem_cons.mpr ⟨fun h => absurd h hlink, hfits⟩⟩

theorem extended_indexTables {a : Assembly} (hshows : a.image.Shows file)
    (hreadable : a.image.Readable) {t : ℕ} (hsection : a.symbolSection = t) {symbols : List Symbol}
    (hsymbols : a.symbols = some symbols) :
    Yields a ((((positions file).map (ElfFile.header file)).filter fun s =>
        s.kind? = some .extendedIndexes).foldlM extendSymbols symbols) fun extended b =>
      b = { a with symbols := some extended } ∧
        extended = Symbol.extendAll symbols ((indexTables file t).map fun x => records file x 4) ∧
          ∀ x ∈ indexTables file t, Fits file x := by
  rw [filter_kind?_eq]
  refine (extended_sections hshows hreadable hsection _ ?_ hsymbols).weaken ?_
  · intro x hx
    exact of_decide_eq_true (List.mem_filter.mp hx).2
  · rintro extended b ⟨rfl, hextended, hfits⟩
    rw [filter_link_eq] at hextended
    refine ⟨rfl, hextended, fun x hx => ?_⟩
    rw [← filter_link_eq, List.mem_filter] at hx
    exact hfits x hx.1 (of_decide_eq_true hx.2)

/-- The stubs of a kind before and after symbols are attached to them; an absent section takes
none. -/
inductive Attached (symbols : List Symbol) (kind : StubKind) : Int → List Stub → List Stub → Prop
  | absent {stubs : List Stub} : Attached symbols kind 0 stubs stubs
  | present {index : Int} {plain final : List Stub} {count : ℕ} (index_ne_zero : index ≠ 0)
      (correlated : Correlation.correlate index kind.symbolKind symbols plain =
        (final, .ok count)) :
      Attached symbols kind index plain final

theorem attached_correlateKind (symbols : List Symbol) (kind : StubKind) (a : Assembly) :
    Yields a (correlateKind symbols kind) fun _ b =>
      ∃ final, b = { a with stubs := a.stubs.set kind final } ∧
      Attached symbols kind (a.stubSections.get kind) (a.stubs.get kind) final := by
  intro logger value b logger' hrun
  rw [perform_correlateKind] at hrun
  by_cases habsent : a.stubSections.get kind = 0
  · rw [if_pos habsent] at hrun
    cases hrun
    refine ⟨a.stubs.get kind, ?_, by rw [habsent]; exact .absent⟩
    cases kind <;> rfl
  · rw [if_neg habsent] at hrun
    rcases hcorrelated : Correlation.correlate (a.stubSections.get kind) kind.symbolKind symbols
        (a.stubs.get kind) with
      ⟨final, result⟩
    rw [hcorrelated] at hrun
    cases result with
    | error cause => cases hrun
    | ok count =>
      cases hrun
      exact ⟨final, rfl, .present habsent hcorrelated⟩

theorem attached_all (symbols : List Symbol) (a : Assembly) :
    Yields a (StubKind.all.forM (correlateKind symbols)) fun _ b =>
      b.stubSections = a.stubSections ∧ b.symbols = a.symbols ∧
        ∀ kind, Attached symbols kind (a.stubSections.get kind) (a.stubs.get kind)
          (b.stubs.get kind) := by
  refine (attached_correlateKind symbols .functionStub a).bind ?_
  rintro _ _ ⟨functions, rfl, hfunctions⟩
  refine (attached_correlateKind symbols .variableStub _).bind ?_
  rintro _ _ ⟨vars, rfl, hvars⟩
  refine yields_pure ⟨rfl, rfl, fun kind => ?_⟩
  cases kind with
  | functionStub => exact hfunctions
  | variableStub => exact hvars

/-- The number of the stub section at a place, and its stubs with symbols attached. -/
inductive StubsLoaded (file : List UInt8) (kind : StubKind) (symbols : List Symbol) :
    Option ℕ → Int → List Stub → Prop
  | absent : StubsLoaded file kind symbols none 0 []
  | present {i count : ℕ} {final : List Stub} (fits : Fits file i)
      (correlated : Correlation.correlate i kind.symbolKind symbols (ElfFile.stubs file kind i) =
        (final, .ok count)) :
      StubsLoaded file kind symbols (some i) i final

/-- The section that holds the symbols, and the index tables for it, could be read. -/
structure SymbolsLoaded (file : List UInt8) (t : ℕ) : Prop where
  only : Only (HoldsSymbols file) (some t)
  entrySize_ge : 16 ≤ entrySize file t
  fits : Fits file t
  hasNames : HasNames file t
  indexTables_fit : ∀ x ∈ indexTables file t, Fits file x

/-- A session with what its file holds. -/
structure Loaded (file : List UInt8) (s : Session) : Prop where
  released_eq : s.released = false
  stubs : ∀ kind, ∃ place, Only (HoldsStubs file kind) place ∧
    StubsLoaded file kind s.symbols place (s.stubSections.get kind) (s.stubs.get kind)
  exists_stubs : ∃ kind, s.stubSections.get kind ≠ 0
  symbols : ∃ t, SymbolsLoaded file t ∧ s.symbols = extendedSymbols file t

theorem StubsFound.attach {kind : StubKind} {symbols : List Symbol} {place : Option ℕ} {index : Int}
    {plain final : List Stub} (h : StubsFound file kind place index plain)
    (hattached : Attached symbols kind index plain final)
    (honly : Only (HoldsStubs file kind) place) :
    StubsLoaded file kind symbols place index final := by
  cases h with
  | absent =>
    cases hattached with
    | absent => exact .absent
    | present hne _ => exact absurd rfl hne
  | @present i hfits =>
    cases honly with
    | present hat _ =>
      have hpos := hat.isSection.1
      generalize hindex : (i : Int) = index at hattached
      cases hattached with
      | absent => omega
      | present _ hcorrelated =>
        subst hindex
        exact .present hfits hcorrelated

/-- What is done after the last section gives a session with what the file holds. -/
theorem Found.loaded {a b : Assembly} (h : Found file (1 + (sectionCount file - 1)) a)
    {symbols extended : List Symbol}
    (hpresent : ¬(a.stubSections.functions = 0 ∧ a.stubSections.vars = 0))
    (hsymbols : a.symbols = some symbols) {t : ℕ} (hsection : a.symbolSection = t)
    (hextended :
      extended = Symbol.extendAll symbols ((indexTables file t).map fun x => records file x 4))
    (hfits : ∀ x ∈ indexTables file t, Fits file x)
    (hstubSections : b.stubSections = a.stubSections) (hfinal : b.symbols = some extended)
    (hattached : ∀ kind,
      Attached extended kind (a.stubSections.get kind) (a.stubs.get kind) (b.stubs.get kind)) :
    Loaded file (ofAssembly b) := by
  have hloaded : (ofAssembly b).symbols = extended := by
    rw [ofAssembly, hfinal]
    rfl
  refine ⟨rfl, fun kind => ?_, ?_, ?_⟩
  · obtain ⟨place, honly, hfound⟩ := h.stubs kind
    have honly := only_of_found (fun j hj => hj.isSection) honly
    refine ⟨place, honly, ?_⟩
    rw [hloaded, ofAssembly, hstubSections]
    exact hfound.attach (hattached kind) honly
  · by_contra hnone
    rw [ofAssembly, hstubSections] at hnone
    exact hpresent ⟨not_not.mp fun hne => hnone ⟨.functionStub, hne⟩,
      not_not.mp fun hne => hnone ⟨.variableStub, hne⟩⟩
  · obtain ⟨place, honly, hfound⟩ := h.symbols
    rw [hsymbols] at hfound
    obtain ⟨t', rfl, hindex, rfl, hwidth, hplace, hnames⟩ := hfound.eq_symbols
    obtain rfl := Int.ofNat_inj.mp (hsection.symm.trans hindex)
    have honly := only_of_found (fun j hj => hj.isSection) honly
    exact ⟨t, ⟨honly, hwidth, hplace, hnames, hfits⟩, hloaded.trans hextended⟩

theorem loaded_assemble {image : Image} (hshows : image.Shows file) (hreadable : image.Readable)
    (hsections : image.sections = (List.range (sectionCount file)).map (ElfFile.header file)) :
    Yields { image } assemble fun _ b => Loaded file (ofAssembly b) := by
  have hnamed : image.namedSections = (positions file).map (ElfFile.header file) := by
    rw [Image.namedSections, hsections, ← List.map_drop, List.range_eq_range', List.drop_range',
      positions]
  unfold assemble
  refine Yields.get_bind ?_
  dsimp only
  rw [hnamed]
  refine (found_sections (found_start hshows hreadable)).bind fun _ a hfound => Yields.get_bind ?_
  by_cases habsent : a.stubSections.functions = 0 ∧ a.stubSections.vars = 0
  · rw [if_pos habsent]
    exact yields_fail
  rw [if_neg habsent]
  cases hsymbols : a.symbols with
  | none => exact yields_fail
  | some symbols =>
    obtain ⟨t, hsection⟩ : ∃ t : ℕ, a.symbolSection = t := by
      obtain ⟨place, _, hplace⟩ := hfound.symbols
      rw [hsymbols] at hplace
      obtain ⟨t, _, hindex, _⟩ := hplace.eq_symbols
      exact ⟨t, hindex⟩
    dsimp only
    refine (extended_indexTables hfound.shows hfound.readable hsection hsymbols).bind ?_
    rintro extended b ⟨rfl, hextended, hfits⟩
    refine (attached_all extended _).weaken ?_
    rintro _ c ⟨hstubSections, hfinal, hattached⟩
    exact hfound.loaded habsent hsymbols hsection hextended hfits hstubSections hfinal hattached

/-- A load that succeeds gives a session with what its file holds. -/
theorem loaded_of_load {path : Text} {pieceSize : ℕ} {limit : Int} {logger logger' : Logger}
    {s : Session} (h : (load path pieceSize limit (.file file)).run logger = (.ok s, logger')) :
    Loaded file s := by
  obtain ⟨image, a, inner, hopening, hrun, rfl⟩ := exists_assemble_of_load h
  have hopen := Image.opening_eq_ok_iff.mp hopening
  obtain ⟨hshows, hsections⟩ := Image.sections_of_openAt hopen
  have hreadable := Image.readable_of_openAt hopen (Int.natCast_nonneg pieceSize)
  exact loaded_assemble hshows hreadable hsections hrun

end ImportStubs.Session
