import ImportStubs.Proofs.Correlation.Attachment
import ImportStubs.Proofs.Session.Assembly

/-!
# A session holds what stands in its file

The section table of the file says which sections hold stubs and symbols. A load that succeeds has
found them, and its session holds their entries in order: the stubs with the words that stand in the
file, the symbols with their names and with section indexes that are filled in from the first index
table that has one.
-/

namespace ImportStubs

theorem Correlation.Gains.eq_with {sectionIndex : Int} {expected : SymbolKind}
    {symbols : List Symbol} {stub after : Stub}
    (h : Gains sectionIndex expected symbols stub after) :
    ∃ symbol, after = { stub with symbol } := by
  cases h with
  | same => exact ⟨stub.symbol, rfl⟩
  | attached _ _ _ => exact ⟨_, rfl⟩

namespace ElfFile

variable (file : List UInt8)

/-- The section index of a symbol. The mark gives way to the first other entry for the symbol in the
index tables. -/
def sectionIndexAt (t j : ℕ) : Int :=
  Symbol.finalIndex (Word.at16 (symbolStart file t j + 14) file)
    ((indexTables file t).filterMap (indexAt file · j))

theorem stubs_getElem? {kind : StubKind} {i j : ℕ} (hj : j < size file i / 16) :
    (stubs file kind i)[j]? = some (stubAt file kind i j) := by
  rw [stubs, List.getElem?_map, List.getElem?_range hj, Option.map_some]

theorem length_extendedSymbols (t : ℕ) :
    (extendedSymbols file t).length = size file t / entrySize file t := by
  rw [extendedSymbols, Symbol.length_extendAll, symbols, List.length_map, List.length_range]

theorem extendedSymbols_getElem? {t j : ℕ} (hj : j < size file t / entrySize file t) :
    (extendedSymbols file t)[j]? =
      some { symbolAt file t j with
        sectionIndex := Symbol.finalIndex (symbolAt file t j).sectionIndex
          ((indexTables file t).filterMap (indexAt file · j)) } := by
  have hget : (symbols file t)[j]? = some (symbolAt file t j) := by
    rw [symbols, List.getElem?_map, List.getElem?_range hj, Option.map_some]
  have hentries : ((indexTables file t).map fun x => records file x 4).filterMap
      (Symbol.entryAt · j) = (indexTables file t).filterMap (indexAt file · j) := by
    rw [List.filterMap_map]
    congr 1
    funext x
    exact entryAt_records file x j
  rw [extendedSymbols, Symbol.extendAll_getElem?, hget, Option.map_some, hentries]

end ElfFile

namespace Session

open ElfFile

variable {file : List UInt8} {s : Session}

/-- The session holds what stands in its file. -/
structure Reads (file : List UInt8) (s : Session) : Prop where
  existsUnique_symbolTable : ∃! t, HoldsSymbols file t
  stubSection_unique : ∀ kind i j, HoldsStubs file kind i → HoldsStubs file kind j → i = j
  exists_stubSection : ∃ kind i, HoldsStubs file kind i
  stubSection_eq : ∀ kind i, HoldsStubs file kind i → s.stubSections.get kind = i
  stubSection_absent : ∀ kind, (∀ i, ¬HoldsStubs file kind i) →
    s.stubSections.get kind = 0 ∧ s.stubs.get kind = []
  stubSections_ne : s.stubSections.functions ≠ 0 → s.stubSections.functions ≠ s.stubSections.vars
  length_stubs : ∀ kind i, HoldsStubs file kind i →
    Fits file i ∧ (s.stubs.get kind).length = size file i / 16
  stub_eq : ∀ kind i j, HoldsStubs file kind i → j < size file i / 16 →
    ∃ symbol, (s.stubs.get kind)[j]? = some { stubAt file kind i j with symbol }
  length_symbols : ∀ t, HoldsSymbols file t →
    Fits file t ∧ 16 ≤ entrySize file t ∧ s.symbols.length = size file t / entrySize file t
  placeholder_eq : ∀ t j, HoldsSymbols file t → j < size file t / entrySize file t →
    j < placeholders file t → s.symbols[j]? = some (.placeholder j)
  symbol_eq : ∀ t j, HoldsSymbols file t → j < size file t / entrySize file t →
    placeholders file t ≤ j →
    HasText file (link file t) (Word.at32 (symbolStart file t j) file) ∧
      s.symbols[j]? = some { decodedAt file t j with sectionIndex := sectionIndexAt file t j }
  indexTables_fit : ∀ t x, HoldsSymbols file t → x ∈ indexTables file t → Fits file x

namespace Loaded

variable (h : Loaded file s)
include h

/-- The stubs of a kind come from the section that holds them, through the correlation with the
symbols. -/
theorem correlated {kind : StubKind} {i : ℕ} (hi : HoldsStubs file kind i) :
    s.stubSections.get kind = i ∧ Fits file i ∧ ∃ count,
      Correlation.correlate i kind.symbolKind s.symbols (ElfFile.stubs file kind i) =
        (s.stubs.get kind, .ok count) := by
  obtain ⟨place, honly, hloaded⟩ := h.stubs kind
  obtain rfl := honly.eq_some hi
  generalize s.stubSections.get kind = index at hloaded
  generalize s.stubs.get kind = final at hloaded
  cases hloaded with
  | present hfits hcorrelated => exact ⟨rfl, hfits, _, hcorrelated⟩

theorem absent {kind : StubKind} (hnone : ∀ i, ¬HoldsStubs file kind i) :
    s.stubSections.get kind = 0 ∧ s.stubs.get kind = [] := by
  obtain ⟨place, honly, hloaded⟩ := h.stubs kind
  obtain rfl := honly.eq_none hnone
  generalize s.stubSections.get kind = index at hloaded ⊢
  generalize s.stubs.get kind = final at hloaded ⊢
  cases hloaded with
  | absent => exact ⟨rfl, rfl⟩

theorem holds_of_ne_zero {kind : StubKind} (hne : s.stubSections.get kind ≠ 0) :
    ∃ i, HoldsStubs file kind i ∧ s.stubSections.get kind = i := by
  by_contra hnone
  refine hne (h.absent fun i hi => hnone ⟨i, hi, (h.correlated hi).1⟩).1

/-- Two kinds have two sections. -/
theorem kind_unique {kind other : StubKind} (hne : s.stubSections.get kind ≠ 0)
    (heq : s.stubSections.get kind = s.stubSections.get other) : other = kind := by
  obtain ⟨i, hi, hindex⟩ := h.holds_of_ne_zero hne
  obtain ⟨j, hj, hother⟩ := h.holds_of_ne_zero (heq ▸ hne)
  obtain rfl : i = j := Int.ofNat_inj.mp (hindex.symm.trans (heq.trans hother))
  exact hi.kind_unique hj

theorem symbols_eq {t : ℕ} (ht : HoldsSymbols file t) :
    SymbolsLoaded file t ∧ s.symbols = extendedSymbols file t := by
  obtain ⟨t', hloaded, hsymbols⟩ := h.symbols
  obtain rfl := Option.some.inj (hloaded.only.eq_some ht)
  exact ⟨hloaded, hsymbols⟩

/-- A stub is the one that stands in the file, with or without a symbol. -/
theorem stub_eq {kind : StubKind} {i j : ℕ} (hi : HoldsStubs file kind i)
    (hj : j < size file i / 16) :
    ∃ symbol, (s.stubs.get kind)[j]? = some { stubAt file kind i j with symbol } := by
  obtain ⟨_, _, count, hcorrelated⟩ := h.correlated hi
  obtain ⟨after, hafter, hgains⟩ := Correlation.gains_correlate (stubs_getElem? file hj)
  rw [hcorrelated] at hafter
  obtain ⟨symbol, rfl⟩ := hgains.eq_with
  exact ⟨symbol, hafter⟩

theorem length_stubs {kind : StubKind} {i : ℕ} (hi : HoldsStubs file kind i) :
    (s.stubs.get kind).length = size file i / 16 := by
  obtain ⟨_, _, count, hcorrelated⟩ := h.correlated hi
  have hlength := congrArg (·.1.length) hcorrelated
  rw [← hlength, Correlation.length_correlate, ElfFile.stubs, List.length_map, List.length_range]

theorem length_symbols {t : ℕ} (ht : HoldsSymbols file t) :
    s.symbols.length = size file t / entrySize file t := by
  rw [(h.symbols_eq ht).2, length_extendedSymbols]

theorem placeholder_eq {t j : ℕ} (ht : HoldsSymbols file t)
    (hj : j < size file t / entrySize file t) (hplace : j < placeholders file t) :
    s.symbols[j]? = some (.placeholder j) := by
  rw [(h.symbols_eq ht).2, extendedSymbols_getElem? file hj, symbolAt, if_pos hplace]
  rfl

theorem symbol_eq {t j : ℕ} (ht : HoldsSymbols file t) (hj : j < size file t / entrySize file t)
    (hplace : placeholders file t ≤ j) :
    s.symbols[j]? = some { decodedAt file t j with sectionIndex := sectionIndexAt file t j } := by
  rw [(h.symbols_eq ht).2, extendedSymbols_getElem? file hj, symbolAt,
    if_neg (Nat.not_lt.mpr hplace)]
  rfl

end Loaded

/-- A load that succeeds gives a session that holds what stands in the file, whatever the size of
the pieces. -/
theorem reads_of_load {path : Text} {pieceSize : ℕ} {limit : Int} {logger logger' : Logger}
    (h : (load path pieceSize limit (.file file)).run logger = (.ok s, logger')) :
    Reads file s := by
  have hloaded := loaded_of_load h
  obtain ⟨t, ht, hsymbols⟩ := hloaded.symbols
  obtain ⟨kind, hkind⟩ := hloaded.exists_stubs
  refine
    { existsUnique_symbolTable := ?_
      stubSection_unique := ?_
      exists_stubSection := ?_
      stubSection_eq := fun kind i hi => (hloaded.correlated hi).1
      stubSection_absent := fun kind hnone => hloaded.absent hnone
      stubSections_ne := ?_
      length_stubs := fun kind i hi => ⟨(hloaded.correlated hi).2.1, hloaded.length_stubs hi⟩
      stub_eq := fun kind i j hi hj => hloaded.stub_eq hi hj
      length_symbols := ?_
      placeholder_eq := fun t j ht hj hplace => hloaded.placeholder_eq ht hj hplace
      symbol_eq := ?_
      indexTables_fit := fun t x ht hx => (hloaded.symbols_eq ht).1.indexTables_fit x hx }
  · have honly := ht.only
    cases honly with
    | present hat heq => exact ⟨t, hat, heq⟩
  · intro kind i j hi hj
    have hindex := (hloaded.correlated hi).1.symm.trans (hloaded.correlated hj).1
    exact Int.ofNat_inj.mp hindex
  · obtain ⟨i, hi, _⟩ := hloaded.holds_of_ne_zero hkind
    exact ⟨kind, i, hi⟩
  · intro hne heq
    have hkinds : StubKind.variableStub = .functionStub := hloaded.kind_unique hne heq
    cases hkinds
  · intro t ht
    have hloadedSymbols := (hloaded.symbols_eq ht).1
    exact ⟨hloadedSymbols.fits, hloadedSymbols.entrySize_ge, hloaded.length_symbols ht⟩
  · intro t j ht hj hplace
    exact ⟨(hloaded.symbols_eq ht).1.hasNames j hplace hj, hloaded.symbol_eq ht hj hplace⟩

/-- A binary with two function stubs, a variable stub and a symbol for one of each; the section
index of the function stands in an index table. -/
def smallBinary : List UInt8 :=
  let halves (ns : List ℕ) : List UInt8 := ns.flatMap (Word.toBytes 2)
  let words (ns : List ℕ) : List UInt8 := ns.flatMap (Word.toBytes 4)
  let strings : List UInt8 :=
    "\x00.vitalink.fstubs\x00.vitalink.vstubs\x00f\x00v\x00\x00".toList.map fun c =>
      UInt8.ofNat c.toNat
  let symbols : List UInt8 :=
    words [0, 0, 0, 0] ++ words [35, 0x1010, 0] ++ [0x12, 0] ++ halves [0xFFFF] ++
      words [37, 0x2000, 0] ++ [0x11, 0] ++ halves [4]
  let stubs := words [1, 2, 3, 0, 4, 5, 6, 0] ++ words [7, 8, 9, 0]
  let indexes := words [0, 3, 0]
  let sections :=
    words [0, 0, 0, 0, 0, 0, 0, 0, 0, 0] ++ words [0, 3, 0, 0, 52, 40, 0, 0, 1, 0] ++
      words [0, 2, 0, 0, 92, 48, 1, 1, 4, 16] ++ words [1, 1, 0, 0x1000, 140, 32, 0, 0, 4, 16] ++
      words [18, 1, 0, 0x2000, 172, 16, 0, 0, 4, 16] ++ words [0, 18, 0, 0, 188, 12, 2, 0, 4, 4]
  ElfHeader.magic ++ [1, 1] ++ List.replicate 10 0 ++ halves [2, 40] ++ words [1, 0, 0, 200, 0] ++
    halves [52, 0, 0, 40, 6, 1] ++ strings ++ symbols ++ stubs ++ indexes ++ sections

def quietLogger : Logger := { tool := "", threshold := 30 }

theorem smallBinary_loads :
    ∃ s logger, (load "small" (5 : ℕ) 0 (.file smallBinary)).run quietLogger = (.ok s, logger) := by
  have hok : ((load "small" (5 : ℕ) 0 (.file smallBinary)).run quietLogger).1.isOk = true := by
    decide +kernel
  rcases hrun : (load "small" (5 : ℕ) 0 (.file smallBinary)).run quietLogger with ⟨_ | s, logger⟩
  · rw [hrun] at hok
    cases hok
  · exact ⟨s, logger, rfl⟩

theorem reads_smallBinary : ∃ s logger,
    (load "small" (5 : ℕ) 0 (.file smallBinary)).run quietLogger = (.ok s, logger) ∧
      Reads smallBinary s := by
  obtain ⟨s, logger, h⟩ := smallBinary_loads
  exact ⟨s, logger, h, reads_of_load h⟩

end Session
end ImportStubs
