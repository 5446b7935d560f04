import ImportStubs.Proofs.Elf.Tables
import ImportStubs.Proofs.Session.Steps

/-!
# What the sections of a file hold, one after another

Stubs of a kind are held by a section of the right type and name, symbols by one of the right type.
Before each section of an assembly, what has been found is what the sections before it hold: at most
one section with stubs of a kind, and at most one with symbols.
-/

namespace ImportStubs

theorem StubKind.sectionName_injective {kind other : StubKind}
    (h : kind.sectionName = other.sectionName) :
    kind = other := by
  revert h
  cases kind <;> cases other <;> decide

namespace ElfFile

variable (file : List UInt8)

structure HoldsStubs (kind : StubKind) (i : ℕ) : Prop where
  isSection : IsSection file i
  type_eq : type file i = SectionType.programBits.number
  name_eq : name file i = kind.sectionName

structure HoldsSymbols (i : ℕ) : Prop where
  isSection : IsSection file i
  type_eq : type file i = SectionType.symbolTable.number

/-- The positions of the sections. -/
def positions : List ℕ := List.range' 1 (sectionCount file - 1)

/-- The positions of the index tables for a symbol table. -/
def indexTables (t : ℕ) : List ℕ :=
  (positions file).filter fun x => type file x = SectionType.extendedIndexes.number ∧
    link file x = t

/-- The symbols of a section with the section indexes from all index tables for it. -/
def extendedSymbols (t : ℕ) : List Symbol :=
  Symbol.extendAll (symbols file t) ((indexTables file t).map fun x => records file x 4)

theorem filter_link_eq (t : ℕ) :
    ((positions file).filter fun x => type file x = SectionType.extendedIndexes.number).filter
      (link file · = t) =
      indexTables file t := by
  rw [List.filter_filter, indexTables]
  congr 1
  funext x
  rw [Bool.decide_and, Bool.and_comm]

variable {file} {i : ℕ}

theorem HoldsStubs.kind_unique {kind other : StubKind} (h : HoldsStubs file kind i)
    (hother : HoldsStubs file other i) :
    other = kind :=
  StubKind.sectionName_injective (hother.name_eq.symm.trans h.name_eq)

theorem HoldsStubs.not_holdsSymbols {kind : StubKind} (h : HoldsStubs file kind i) :
    ¬HoldsSymbols file i := by
  intro hsymbols
  have hsame : SectionType.programBits.number = SectionType.symbolTable.number :=
    h.type_eq.symm.trans hsymbols.type_eq
  cases hsame

theorem kind?_header {kind : SectionType} :
    (header file i).kind? = some kind ↔ type file i = kind.number := by
  rw [SectionHeader.kind?_eq_some_iff]
  exact Int.ofNat_inj

theorem filter_kind?_eq {kind : SectionType} :
    (((positions file).map (header file)).filter fun s => s.kind? = some kind) =
      ((positions file).filter fun x => type file x = kind.number).map (header file) := by
  rw [List.filter_map]
  congr 2
  funext x
  exact decide_eq_decide.mpr kind?_header

theorem stubKind?_header (hsection : IsSection file i) {kind : StubKind} :
    Session.stubKind? (header file i) = some kind ↔ HoldsStubs file kind i := by
  have hname : (header file i).name = name file i := if_neg (Nat.ne_of_gt hsection.1)
  unfold Session.stubKind?
  constructor
  · intro hkind
    split_ifs at hkind with htype
    have hfound := List.find?_some hkind
    exact ⟨hsection, kind?_header.mp htype, hname ▸ of_decide_eq_true hfound⟩
  · rintro ⟨_, htype, hkind⟩
    rw [if_pos (kind?_header.mpr htype), hname, hkind]
    cases kind <;> decide

end ElfFile

/-- The only position with a property, or none has it. -/
inductive Only (holds : ℕ → Prop) : Option ℕ → Prop
  | absent (none : ∀ j, ¬holds j) : Only holds .none
  | present {i : ℕ} (holds_at : holds i) (eq_of_holds : ∀ j, holds j → j = i) : Only holds (some i)

namespace Only

variable {holds : ℕ → Prop} {n : ℕ} {place : Option ℕ}

theorem congr {other : ℕ → Prop} (h : Only holds place) (hiff : ∀ j, other j ↔ holds j) :
    Only other place := by
  cases h with
  | absent hnone => exact .absent fun j hj => hnone j ((hiff j).mp hj)
  | present hat heq => exact .present ((hiff _).mpr hat) fun j hj => heq j ((hiff j).mp hj)

theorem start (h : ∀ j, holds j → 0 < j) : Only (fun j => j < 1 ∧ holds j) none := by
  refine .absent ?_
  rintro j ⟨hlt, hj⟩
  have hpos := h j hj
  omega

/-- A position without the property changes nothing. -/
theorem skip (h : Only (fun j => j < n ∧ holds j) place) (hn : ¬holds n) :
    Only (fun j => j < n + 1 ∧ holds j) place := by
  refine h.congr fun j => ⟨?_, fun hj => ⟨Nat.lt_succ_of_lt hj.1, hj.2⟩⟩
  rintro ⟨hlt, hj⟩
  refine ⟨Nat.lt_of_le_of_ne (Nat.le_of_lt_succ hlt) ?_, hj⟩
  rintro rfl
  exact hn hj

/-- The first position with the property is the only one so far. -/
theorem take (h : Only (fun j => j < n ∧ holds j) none) (hn : holds n) :
    Only (fun j => j < n + 1 ∧ holds j) (some n) := by
  cases h with
  | absent hnone =>
    refine .present ⟨Nat.lt_succ_self n, hn⟩ fun j hj => ?_
    by_contra hne
    exact hnone j ⟨Nat.lt_of_le_of_ne (Nat.le_of_lt_succ hj.1) hne, hj.2⟩

theorem eq_some (h : Only holds place) {i : ℕ} (hi : holds i) :
    place = some i := by
  cases h with
  | absent hnone => exact absurd hi (hnone i)
  | present _ heq => rw [heq i hi]

theorem eq_none (h : Only holds place) (hnone : ∀ i, ¬holds i) :
    place = none := by
  cases h with
  | absent _ => rfl
  | present hat _ => exact absurd hat (hnone _)

end Only

namespace Session

open ElfFile

variable {file : List UInt8}

/-- The number of the stub section at a place, and its stubs. -/
inductive StubsFound (file : List UInt8) (kind : StubKind) : Option ℕ → Int → List Stub → Prop
  | absent : StubsFound file kind none 0 []
  | present {i : ℕ} (fits : Fits file i) :
      StubsFound file kind (some i) i (ElfFile.stubs file kind i)

/-- The number of the section at a place that holds symbols, and its symbols. -/
inductive SymbolsFound (file : List UInt8) : Option ℕ → Int → Option (List Symbol) → Prop
  | absent {index : Int} : SymbolsFound file none index none
  | present {t : ℕ} (entrySize_ge : 16 ≤ entrySize file t) (fits : Fits file t)
      (hasNames : HasNames file t) :
      SymbolsFound file (some t) t (some (ElfFile.symbols file t))

/-- What has been found before the section at a position. -/
structure Found (file : List UInt8) (n : ℕ) (a : Assembly) : Prop where
  shows : a.image.Shows file
  readable : a.image.Readable
  stubs : ∀ kind, ∃ place, Only (fun j => j < n ∧ HoldsStubs file kind j) place ∧
    StubsFound file kind place (a.stubSections.get kind) (a.stubs.get kind)
  symbols : ∃ place, Only (fun j => j < n ∧ HoldsSymbols file j) place ∧
    SymbolsFound file place a.symbolSection a.symbols

/-- A kind with the number zero has no section yet. -/
theorem StubsFound.place_eq_none {kind : StubKind} {n : ℕ} {place : Option ℕ} {index : Int}
    {found : List Stub} (h : StubsFound file kind place index found)
    (honly : Only (fun j => j < n ∧ HoldsStubs file kind j) place) (hzero : index = 0) :
    place = none := by
  cases h with
  | absent => rfl
  | present hfits =>
    cases honly with
    | present hat _ =>
      have hpos := hat.2.isSection.1
      omega

theorem SymbolsFound.place_eq_none {place : Option ℕ} {index : Int}
    (h : SymbolsFound file place index none) :
    place = none := by
  cases h
  rfl

theorem SymbolsFound.eq_symbols {place : Option ℕ} {index : Int} {symbols : List Symbol}
    (h : SymbolsFound file place index (some symbols)) :
    ∃ t : ℕ, place = some t ∧ index = t ∧ symbols = ElfFile.symbols file t ∧
      16 ≤ entrySize file t ∧ Fits file t ∧ HasNames file t := by
  cases h with
  | present hwidth hfits hnames => exact ⟨_, rfl, rfl, rfl, hwidth, hfits, hnames⟩

theorem found_start {image : Image} (hshows : image.Shows file) (hreadable : image.Readable) :
    Found file 1 { image } := by
  refine ⟨hshows, hreadable, fun kind => ⟨none, .start fun j hj => hj.isSection.1, ?_⟩, none,
    .start fun j hj => hj.isSection.1, .absent⟩
  cases kind <;> exact .absent

theorem found_loadStubs {n : ℕ} {a : Assembly} (h : Found file n a) {kind : StubKind}
    (hholds : HoldsStubs file kind n) :
    Yields a (loadStubs kind (ElfFile.header file n)) fun _ => Found file (n + 1) := by
  intro logger value b logger' hrun
  rw [perform_loadStubs kind _ h.readable.pieceSize_nonneg] at hrun
  by_cases hseen : a.stubSections.get kind ≠ 0
  · rw [if_pos hseen] at hrun
    cases hrun
  rw [if_neg hseen] at hrun
  cases hstubs : a.image.stubsIn kind (ElfFile.header file n) with
  | error e =>
    rw [hstubs] at hrun
    cases hrun
  | ok found =>
    rw [hstubs] at hrun
    cases hrun
    have hdata : type file n ≠ SectionType.noBits.number := by
      rw [hholds.type_eq]
      decide
    obtain ⟨rfl, hfits⟩ := h.shows.stubsIn_header hdata hstubs
    refine ⟨h.shows, h.readable, fun other => ?_, ?_⟩
    · obtain ⟨place, honly, hfound⟩ := h.stubs other
      simp only [Assembly.markStubs, PerKind.get_set]
      by_cases hother : other = kind
      · subst hother
        obtain rfl := hfound.place_eq_none honly (not_not.mp hseen)
        rw [if_pos rfl, if_pos rfl]
        exact ⟨some n, honly.take hholds, .present hfits⟩
      · rw [if_neg hother, if_neg hother]
        exact ⟨place, honly.skip fun hn => hother (hholds.kind_unique hn), hfound⟩
    · obtain ⟨place, honly, hfound⟩ := h.symbols
      exact ⟨place, honly.skip hholds.not_holdsSymbols, hfound⟩

theorem found_loadSymbols {n : ℕ} {a : Assembly} (h : Found file n a)
    (hholds : HoldsSymbols file n) :
    Yields a (loadSymbols (ElfFile.header file n)) fun _ => Found file (n + 1) := by
  intro logger value b logger' hrun
  obtain ⟨tables, hreadable, hperform⟩ :=
    perform_loadSymbols (ElfFile.header file n) h.readable logger
  rw [hperform] at hrun
  obtain ⟨place, honly, hfound⟩ := h.symbols
  cases hseen : a.symbols with
  | some symbols =>
    rw [hseen] at hrun
    cases hrun
  | none =>
    rw [hseen] at hrun hfound
    rw [hfound.place_eq_none] at honly
    cases hsymbols : a.image.symbolsIn (ElfFile.header file n) with
    | error e =>
      rw [hsymbols] at hrun
      cases hrun
    | ok found =>
      rw [hsymbols] at hrun
      cases hrun
      have hdata : type file n ≠ SectionType.noBits.number := by
        rw [hholds.type_eq]
        decide
      obtain ⟨hwidth, rfl, hfits, hnames⟩ := h.shows.symbolsIn_header hdata hsymbols
      refine ⟨⟨h.shows.bytes_eq, h.shows.closed_eq, h.shows.entries_eq⟩, hreadable,
        fun kind => ?_, ?_⟩
      · obtain ⟨place, honly, hfound⟩ := h.stubs kind
        exact ⟨place, honly.skip fun hn => hn.not_holdsSymbols hholds, hfound⟩
      · exact ⟨some n, honly.take hholds, .present hwidth hfits hnames⟩

theorem found_loadSection {n : ℕ} {a : Assembly} (hsection : IsSection file n)
    (h : Found file n a) :
    Yields a (loadSection (ElfFile.header file n)) fun _ => Found file (n + 1) := by
  unfold loadSection
  cases hkind : stubKind? (ElfFile.header file n) with
  | some kind => exact found_loadStubs h ((stubKind?_header hsection).mp hkind)
  | none =>
    dsimp only
    by_cases htype : (ElfFile.header file n).kind? = some .symbolTable
    · rw [if_pos htype]
      exact found_loadSymbols h ⟨hsection, kind?_header.mp htype⟩
    · rw [if_neg htype]
      refine yields_pure ⟨h.shows, h.readable, fun kind => ?_, ?_⟩
      · obtain ⟨place, honly, hfound⟩ := h.stubs kind
        refine ⟨place, honly.skip fun hn => ?_, hfound⟩
        rw [(stubKind?_header hsection).mpr hn] at hkind
        cases hkind
      · obtain ⟨place, honly, hfound⟩ := h.symbols
        exact ⟨place, honly.skip fun hn => htype (kind?_header.mpr hn.type_eq), hfound⟩

/-- What has been found after the last section. -/
theorem found_sections {a : Assembly} (h : Found file 1 a) :
    Yields a (((positions file).map (ElfFile.header file)).forM loadSection) fun _ =>
      Found file (1 + (sectionCount file - 1)) := by
  rw [List.forM_eq_forM, List.forM_map, positions]
  refine yields_forM_range' (Found file) (fun i b hpos hlt hb => ?_) h
  exact found_loadSection ⟨hpos, by omega⟩ hb

/-- After the last section the only section found with a property is the only one of the file. -/
theorem only_of_found {holds : ℕ → Prop} {place : Option ℕ}
    (hsection : ∀ j, holds j → IsSection file j)
    (h : Only (fun j => j < 1 + (sectionCount file - 1) ∧ holds j) place) : Only holds place := by
  refine h.congr fun j => ⟨fun hj => ⟨?_, hj⟩, And.right⟩
  have hlt := (hsection j hj).2
  omega

end Session
end ImportStubs
