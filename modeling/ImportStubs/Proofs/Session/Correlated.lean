import ImportStubs.Proofs.Correlation.Attachable
import ImportStubs.Proofs.Session.Contents
import ImportStubs.Proofs.Session.Passes

/-!
# Every symbol of a stub section names one stub

In a loaded session the global functions and objects of a stub section are attached to its stubs,
each to the one stub at its address, and nothing else is attached. The stubs of a section have
addresses of their own, and the two kinds have two sections, so no symbol is attached twice. Passes
over the stubs change none of this.
-/

namespace ImportStubs

theorem ElfFile.symbolAt_index (file : List UInt8) (t j : ℕ) : (symbolAt file t j).index = j := by
  unfold symbolAt
  split_ifs <;> rfl

namespace Session

open ElfFile

variable {file : List UInt8} {s : Session}

/-- A global function or object of the section with the stubs of a kind. -/
structure Relevant (s : Session) (kind : StubKind) (symbol : Symbol) : Prop where
  mem : symbol ∈ s.symbols
  binding_eq : symbol.binding = .globalBinding
  kind_mem : symbol.kind = .function ∨ symbol.kind = .object
  section_ne_zero : s.stubSections.get kind ≠ 0
  sectionIndex_eq : symbol.sectionIndex = s.stubSections.get kind

/-- Relevant symbols and stubs belong together one to one. -/
structure Correlated (s : Session) : Prop where
  index_eq : ∀ (i : ℕ) (symbol : Symbol), s.symbols[i]? = some symbol → symbol.index = i
  stubKind_eq : ∀ (kind : StubKind) (p : ℕ) (stub : Stub), (s.stubs.get kind)[p]? = some stub →
    stub.kind = kind
  kind_eq : ∀ (kind : StubKind) (symbol : Symbol), s.Relevant kind symbol →
    symbol.kind = kind.symbolKind
  attached : ∀ (kind : StubKind) (symbol : Symbol), s.Relevant kind symbol →
    ∃ (p : ℕ) (stub : Stub), (s.stubs.get kind)[p]? = some stub ∧ stub.symbol = some symbol ∧
      stub.address = symbol.value
  relevant : ∀ (kind : StubKind) (p : ℕ) (stub : Stub) (symbol : Symbol),
    (s.stubs.get kind)[p]? = some stub → stub.symbol = some symbol →
      s.Relevant kind symbol ∧ stub.address = symbol.value
  unique : ∀ (kind other : StubKind) (p q : ℕ) (stub stub' : Stub) (symbol : Symbol),
    (s.stubs.get kind)[p]? = some stub → (s.stubs.get other)[q]? = some stub' →
      stub.symbol = some symbol → stub'.symbol = some symbol → kind = other ∧ p = q

theorem isRelevant_iff_relevant {kind : StubKind} {symbol : Symbol} (hmem : symbol ∈ s.symbols)
    (hne : s.stubSections.get kind ≠ 0) :
    Correlation.isRelevant (s.stubSections.get kind) symbol = true ↔ s.Relevant kind symbol := by
  rw [Correlation.isRelevant_iff]
  constructor
  · rintro ⟨hbinding, hkind, hindex⟩
    refine ⟨hmem, hbinding, ?_, hne, hindex⟩
    cases hsymbol : symbol.kind with
    | function => exact .inl rfl
    | object => exact .inr rfl
    | other => exact absurd hsymbol hkind
  · intro h
    refine ⟨h.binding_eq, ?_, h.sectionIndex_eq⟩
    rcases h.kind_mem with hkind | hkind <;> simp [hkind]

namespace Loaded

variable (h : Loaded file s)
include h

theorem symbol_index_eq {i : ℕ} {symbol : Symbol} (hget : s.symbols[i]? = some symbol) :
    symbol.index = i := by
  obtain ⟨t, hloaded, hsymbols⟩ := h.symbols
  have hlt := (List.getElem?_eq_some_iff.mp hget).1
  have hlength : s.symbols.length = size file t / entrySize file t := by
    rw [hsymbols, length_extendedSymbols]
  rw [hlength] at hlt
  rw [hsymbols, extendedSymbols_getElem? file hlt] at hget
  obtain rfl := Option.some.inj hget
  exact symbolAt_index file t i

/-- A stub is the one that stands in the file, or it gained a symbol. -/
theorem gains {kind : StubKind} {p : ℕ} {stub : Stub} (hget : (s.stubs.get kind)[p]? = some stub) :
    ∃ i, HoldsStubs file kind i ∧ s.stubSections.get kind = i ∧ p < size file i / 16 ∧
      Correlation.Gains i kind.symbolKind s.symbols (stubAt file kind i p) stub := by
  by_cases hnone : ∀ i, ¬HoldsStubs file kind i
  · rw [(h.absent hnone).2] at hget
    cases hget
  · obtain ⟨i, hi⟩ := not_forall_not.mp hnone
    have hlt : p < size file i / 16 := by
      rw [← h.length_stubs hi]
      exact (List.getElem?_eq_some_iff.mp hget).1
    obtain ⟨hindex, _, count, hcorrelated⟩ := h.correlated hi
    obtain ⟨after, hafter, hgains⟩ := Correlation.gains_correlate (stubs_getElem? file hlt)
    rw [hcorrelated, hget] at hafter
    obtain rfl := Option.some.inj hafter
    exact ⟨i, hi, hindex, hlt, hgains⟩

theorem stubKind_eq {kind : StubKind} {p : ℕ} {stub : Stub}
    (hget : (s.stubs.get kind)[p]? = some stub) :
    stub.kind = kind := by
  obtain ⟨i, _, _, _, hgains⟩ := h.gains hget
  obtain ⟨symbol, rfl⟩ := hgains.eq_with
  rfl

theorem address_eq {kind : StubKind} {p : ℕ} {stub : Stub}
    (hget : (s.stubs.get kind)[p]? = some stub) :
    ∃ i, HoldsStubs file kind i ∧ p < size file i / 16 ∧
      stub.address = (stubAt file kind i p).address := by
  obtain ⟨i, hi, _, hlt, hgains⟩ := h.gains hget
  obtain ⟨symbol, rfl⟩ := hgains.eq_with
  exact ⟨i, hi, hlt, rfl⟩

/-- The stubs of a kind have addresses of their own. -/
theorem address_injective {kind : StubKind} {p q : ℕ} {stub other : Stub}
    (hp : (s.stubs.get kind)[p]? = some stub) (hq : (s.stubs.get kind)[q]? = some other)
    (haddress : stub.address = other.address) : p = q := by
  obtain ⟨i, hi, hpi, hstub⟩ := h.address_eq hp
  obtain ⟨j, hj, hqj, hother⟩ := h.address_eq hq
  obtain rfl : i = j := Int.ofNat_inj.mp ((h.correlated hi).1.symm.trans (h.correlated hj).1)
  exact stubAt_address_injective file hpi hqj (hstub.symm.trans (haddress.trans hother))

/-- Only relevant symbols are attached. -/
theorem relevant_of_symbol {kind : StubKind} {p : ℕ} {stub : Stub} {symbol : Symbol}
    (hget : (s.stubs.get kind)[p]? = some stub) (hsymbol : stub.symbol = some symbol) :
    s.Relevant kind symbol ∧ symbol.kind = kind.symbolKind ∧ stub.address = symbol.value := by
  obtain ⟨i, hi, hindex, _, hgains⟩ := h.gains hget
  cases hgains with
  | same => cases hsymbol
  | attached _ hmem hnames =>
    obtain rfl := Option.some.inj hsymbol
    have hne : s.stubSections.get kind ≠ 0 := by
      have hpos := hi.isSection.1
      omega
    refine ⟨(isRelevant_iff_relevant hmem hne).mp ?_, hnames.kind_eq, hnames.value_eq.symm⟩
    rw [hindex]
    exact hnames.relevant

/-- Every relevant symbol is attached. -/
theorem attached_of_relevant {kind : StubKind} {symbol : Symbol}
    (hrelevant : s.Relevant kind symbol) :
    symbol.kind = kind.symbolKind ∧
      ∃ (p : ℕ) (stub : Stub), (s.stubs.get kind)[p]? = some stub ∧ stub.symbol = some symbol := by
  obtain ⟨i, hi, hindex⟩ := h.holds_of_ne_zero hrelevant.section_ne_zero
  obtain ⟨_, _, count, hcorrelated⟩ := h.correlated hi
  have his := (isRelevant_iff_relevant hrelevant.mem hrelevant.section_ne_zero).mpr hrelevant
  rw [hindex] at his
  obtain ⟨hkind, stub, hstub, hsymbol⟩ :=
    Correlation.attached_of_correlate_eq_ok hcorrelated hrelevant.mem his
  obtain ⟨p, hget⟩ := List.mem_iff_getElem?.mp hstub
  exact ⟨hkind, p, stub, hget, hsymbol⟩

theorem correlated_session : s.Correlated := by
  refine
    { index_eq := fun i symbol hget => h.symbol_index_eq hget
      stubKind_eq := fun kind p stub hget => h.stubKind_eq hget
      kind_eq := fun kind symbol hrelevant => (h.attached_of_relevant hrelevant).1
      attached := ?_
      relevant := ?_
      unique := ?_ }
  · intro kind symbol hrelevant
    obtain ⟨_, p, stub, hget, hsymbol⟩ := h.attached_of_relevant hrelevant
    exact ⟨p, stub, hget, hsymbol, (h.relevant_of_symbol hget hsymbol).2.2⟩
  · intro kind p stub symbol hget hsymbol
    have hrelevant := h.relevant_of_symbol hget hsymbol
    exact ⟨hrelevant.1, hrelevant.2.2⟩
  · intro kind other p q stub stub' symbol hp hq hsymbol hsymbol'
    obtain ⟨hrelevant, _, haddress⟩ := h.relevant_of_symbol hp hsymbol
    obtain ⟨hrelevant', _, haddress'⟩ := h.relevant_of_symbol hq hsymbol'
    have hsame := hrelevant.sectionIndex_eq.symm.trans hrelevant'.sectionIndex_eq
    obtain rfl := h.kind_unique hrelevant.section_ne_zero hsame
    exact ⟨rfl, h.address_injective hp hq (haddress.trans haddress'.symm)⟩

end Loaded

theorem Keeps.relevant_iff {t : Session} (h : Keeps s t) {kind : StubKind} {symbol : Symbol} :
    t.Relevant kind symbol ↔ s.Relevant kind symbol := by
  have hforward : ∀ {s t : Session}, Keeps s t → s.Relevant kind symbol →
      t.Relevant kind symbol := by
    intro s t h hs
    refine ⟨?_, hs.binding_eq, hs.kind_mem, ?_, ?_⟩
    · rw [h.symbols_eq]
      exact hs.mem
    · rw [h.stubSections_eq]
      exact hs.section_ne_zero
    · rw [h.stubSections_eq]
      exact hs.sectionIndex_eq
  exact ⟨hforward h.symm, hforward h⟩

theorem Keeps.correlated {t : Session} (h : Keeps s t) (hs : s.Correlated) : t.Correlated := by
  refine ⟨?_, ?_, ?_, ?_, ?_, ?_⟩
  · intro i symbol hget
    rw [h.symbols_eq] at hget
    exact hs.index_eq i symbol hget
  · intro kind p stub hget
    obtain ⟨other, hother, hkind, _, _⟩ := h.symm.getElem? hget
    exact hkind.symm.trans (hs.stubKind_eq kind p other hother)
  · intro kind symbol hrelevant
    exact hs.kind_eq kind symbol (h.relevant_iff.mp hrelevant)
  · intro kind symbol hrelevant
    obtain ⟨p, stub, hget, hsymbol, haddress⟩ :=
      hs.attached kind symbol (h.relevant_iff.mp hrelevant)
    obtain ⟨other, hother, _, hsame, hsameSymbol⟩ := h.getElem? hget
    exact ⟨p, other, hother, hsameSymbol.trans hsymbol, hsame.trans haddress⟩
  · intro kind p stub symbol hget hsymbol
    obtain ⟨other, hother, _, haddress, hsame⟩ := h.symm.getElem? hget
    obtain ⟨hrelevant, hvalue⟩ := hs.relevant kind p other symbol hother (hsame.trans hsymbol)
    exact ⟨h.relevant_iff.mpr hrelevant, haddress.symm.trans hvalue⟩
  · intro kind other p q stub stub' symbol hp hq hsymbol hsymbol'
    obtain ⟨first, hfirst, _, _, hfirstSymbol⟩ := h.symm.getElem? hp
    obtain ⟨second, hsecond, _, _, hsecondSymbol⟩ := h.symm.getElem? hq
    exact hs.unique kind other p q first second symbol hfirst hsecond (hfirstSymbol.trans hsymbol)
      (hsecondSymbol.trans hsymbol')

/-- Relevant symbols and stubs of a loaded session belong together one to one, and they still do
after any passes, of which none fails. -/
theorem correlated_of_load {path : Text} {pieceSize : ℕ} {limit : Int} {logger logger' : Logger}
    (h : (load path pieceSize limit (.file file)).run logger = (.ok s, logger')) :
    s.Correlated ∧ ∀ t, Passes s t → Keeps s t ∧ t.Correlated ∧
      ∀ db logger, ∃ u report, ((resolve db t).run logger).1 = .ok (u, report) := by
  have hloaded := loaded_of_load h
  have hcorrelated := hloaded.correlated_session
  refine ⟨hcorrelated, fun t ht => ?_⟩
  have hkeeps := ht.keeps hloaded.released_eq
  refine ⟨hkeeps, hkeeps.correlated hcorrelated, fun db logger => ?_⟩
  obtain ⟨report, hresolve⟩ := resolve_run (hkeeps.released_eq.trans hloaded.released_eq) db logger
  exact ⟨t.resolved db, report, hresolve⟩

/-- A function and a variable of the small binary are attached. -/
theorem correlated_smallBinary : ∃ s logger,
    (load "small" (5 : ℕ) 0 (.file smallBinary)).run quietLogger = (.ok s, logger) ∧ s.Correlated ∧
      ∀ t, Passes s t → Keeps s t ∧ t.Correlated ∧
        ∀ db logger, ∃ u report, ((resolve db t).run logger).1 = .ok (u, report) := by
  obtain ⟨s, logger, h⟩ := smallBinary_loads
  exact ⟨s, logger, h, correlated_of_load h⟩

end Session
end ImportStubs
