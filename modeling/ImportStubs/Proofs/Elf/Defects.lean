import ImportStubs.Proofs.Elf.Acceptance
import ImportStubs.Proofs.Elf.Tables

/-!
# Sections that cannot be read

Stubs and indexes can be read exactly if their section fits into the file. Symbols also need wide
enough entries, and every entry that is decoded needs its name. Whatever fails is the fault of a
malformed object.
-/

namespace ImportStubs

namespace ElfFile

variable (file : List UInt8)

instance {i : ℕ} : Decidable (Fits file i) := inferInstanceAs (Decidable (_ → _))

instance {table start : ℕ} : Decidable (HasText file table start) :=
  decidable_of_iff (IsSection file table ∧ type file table = SectionType.stringTable.number ∧
      start < size file table ∧ offset file table + size file table ≤ file.length)
    ⟨fun h => ⟨h.1, h.2.1, h.2.2.1, h.2.2.2⟩,
      fun h => ⟨h.isSection, h.type_eq, h.start_lt, h.inside⟩⟩

instance {t : ℕ} : Decidable (HasNames file t) :=
  decidable_of_iff (∀ j < size file t / entrySize file t, placeholders file t ≤ j →
      HasText file (link file t) (Word.at32 (symbolStart file t j) file))
    ⟨fun h j hfirst hlast => h j hlast hfirst, fun h j hlast hfirst => h j hfirst hlast⟩

/-- The symbols of a section can be read. -/
structure ReadableSymbols (t : ℕ) : Prop where
  entrySize_ge : 16 ≤ entrySize file t
  fits : Fits file t
  hasNames : HasNames file t

instance {t : ℕ} : Decidable (ReadableSymbols file t) :=
  decidable_of_iff (16 ≤ entrySize file t ∧ Fits file t ∧ HasNames file t)
    ⟨fun h => ⟨h.1, h.2.1, h.2.2⟩, fun h => ⟨h.entrySize_ge, h.fits, h.hasNames⟩⟩

/-- A malformed object, unless the condition holds. -/
def malformedUnless (p : Prop) [Decidable p] : Option LoadErrorCategory :=
  if p then none else some .malformedObject

end ElfFile

namespace Image

open ElfFile

variable {image : Image}

theorem malformed_scanOf (hopen : image.closed = false) (width : ℕ) (s : SectionHeader) :
    Malformed image.path (image.scanOf width s) := by
  refine Malformed.map ?_
  unfold payload
  split_ifs
  · exact malformed_ok []
  · exact malformed_read hopen _ _

theorem malformed_symbolOf (hopen : image.closed = false) {s : SectionHeader}
    (hlink : Numeral.isShowable s.link = true) (record : Record) :
    Malformed image.path (image.symbolOf s record) := by
  have hname : Numeral.isShowable (Symbol.nameOffset record.bytes) = true :=
    (isWord_natCast (Word.at32_lt 0 record.bytes)).isShowable
  unfold symbolOf
  dsimp only
  split_ifs
  · exact malformed_ok _
  · exact (malformed_freshString hopen hlink hname).bind fun _ _ => malformed_ok _

namespace Shows

variable {file : List UInt8} (h : image.Shows file)
include h

theorem exists_scanOf_iff {i width : ℕ} (hwidth : 0 < width)
    (htype : type file i ≠ SectionType.noBits.number) :
    (∃ scan, image.scanOf width (ElfFile.header file i) = .ok scan) ↔ Fits file i := by
  constructor
  · rintro ⟨scan, hscan⟩
    exact (h.scanOf_header hwidth htype hscan).2
  · intro hfits
    refine exists_map_eq_ok_iff.mpr ?_
    unfold payload
    by_cases hempty : (ElfFile.header file i).kind? = some .noBits ∨
        (ElfFile.header file i).size = 0
    · exact ⟨[], if_pos hempty⟩
    · have hsize : size file i ≠ 0 := fun hzero => hempty (.inr (congrArg Nat.cast hzero))
      rw [if_neg hempty]
      exact ⟨_, h.read_eq_ok_iff.mpr ⟨hfits hsize, rfl⟩⟩

/-- An index table can be read if it fits. -/
theorem ends_scanOf {i width : ℕ} (hwidth : 0 < width)
    (htype : type file i ≠ SectionType.noBits.number) :
    Ends image.path (malformedUnless (Fits file i))
      (image.scanOf width (ElfFile.header file i)) :=
  (malformed_scanOf h.closed_eq _ _).ends (h.exists_scanOf_iff hwidth htype)

/-- The stubs of a section can be read if it fits. -/
theorem ends_stubsIn {i : ℕ} (kind : StubKind) (htype : type file i ≠ SectionType.noBits.number) :
    Ends image.path (malformedUnless (Fits file i))
      (image.stubsIn kind (ElfFile.header file i)) := by
  have hrecords : ∀ scan, image.scanOf Stub.entrySize (ElfFile.header file i) = .ok scan →
      scan.fault = none := by
    intro scan hscan
    rw [(h.scanOf_header (by decide) htype hscan).1]
  have hmalformed : Malformed image.path (image.stubsIn kind (ElfFile.header file i)) := by
    refine (malformed_scanOf h.closed_eq _ _).bind fun scan hscan => ?_
    rw [hrecords scan hscan]
    exact malformed_ok _
  have hscan := h.exists_scanOf_iff (show 0 < Stub.entrySize by decide) htype
  refine hmalformed.ends ?_
  rw [stubsIn, exists_bind_eq_ok_iff, ← hscan]
  refine exists_congr fun scan => and_iff_left_of_imp fun hscan => ?_
  rw [hrecords scan hscan]
  exact ⟨_, rfl⟩

theorem exists_symbolOf_iff {t j : ℕ} (hwidth : 16 ≤ entrySize file t) :
    (∃ symbol, image.symbolOf (ElfFile.header file t)
        ⟨j * entrySize file t, symbolBytes file t j⟩ = .ok symbol) ↔
      (placeholders file t ≤ j →
        HasText file (link file t) (Word.at32 (symbolStart file t j) file)) := by
  constructor
  · rintro ⟨symbol, hsymbol⟩
    exact (h.symbolOf_record hwidth hsymbol).2
  · intro htext
    have hindex : j * entrySize file t / (ElfFile.header file t).entrySize.toNat = j :=
      Nat.mul_div_cancel j (Nat.lt_of_lt_of_le (by decide) hwidth)
    have hfirst : Symbol.firstDecoded (ElfFile.header file t) = max (info file t : Int) 1 := rfl
    unfold symbolOf
    dsimp only
    rw [hindex, hfirst, nameOffset_symbolBytes hwidth]
    by_cases hplace : (j : Int) < max (info file t : Int) 1
    · exact ⟨_, if_pos hplace⟩
    · have hdecoded : placeholders file t ≤ j := by
        rw [placeholders]
        omega
      have hname := h.freshString_eq_ok_iff.mpr ⟨htext hdecoded, rfl⟩
      rw [if_neg hplace]
      exact exists_bind_eq_ok_iff.mpr ⟨_, hname, _, rfl⟩

theorem malformed_symbolsIn {t : ℕ} (htype : type file t ≠ SectionType.noBits.number) :
    Malformed image.path (image.symbolsIn (ElfFile.header file t)) := by
  unfold symbolsIn
  cases hcount : Symbol.count (ElfFile.header file t) with
  | error e =>
    have hwidth : (ElfFile.header file t).entrySize = entrySize file t := rfl
    have hshowable : LoadFault.isShowable (.smallSymbolEntry (entrySize file t)) = true :=
      isShowable_field file t 9
    rw [Symbol.eq_of_count_eq_error hcount, hwidth, ReadError.ofFault_of_isShowable hshowable]
    exact malformed_error rfl (by simp)
  | ok count =>
    have hwidth : 16 ≤ entrySize file t := Int.ofNat_le.mp (Symbol.le_entrySize_of_count hcount)
    refine (malformed_scanOf h.closed_eq _ _).bind fun scan hscan => ?_
    have hscan : image.scanOf (entrySize file t) (ElfFile.header file t) = .ok scan := hscan
    obtain ⟨rfl, _⟩ := h.scanOf_header (by omega) htype hscan
    have hlink : Numeral.isShowable (ElfFile.header file t).link = true :=
      isShowable_field file t 6
    exact (Malformed.mapM fun record _ => malformed_symbolOf h.closed_eq hlink record).bind
      fun symbols _ => malformed_ok symbols

theorem exists_symbolsIn_iff {t : ℕ} (htype : type file t ≠ SectionType.noBits.number) :
    (∃ symbols, image.symbolsIn (ElfFile.header file t) = .ok symbols) ↔
      ReadableSymbols file t := by
  constructor
  · rintro ⟨symbols, hsymbols⟩
    obtain ⟨hwidth, _, hfits, hnames⟩ := h.symbolsIn_header htype hsymbols
    exact ⟨hwidth, hfits, hnames⟩
  · rintro ⟨hwidth, hfits, hnames⟩
    have hcount : Symbol.count (ElfFile.header file t) = .ok (size file t / entrySize file t) :=
      if_neg (Int.not_lt.mpr (Int.ofNat_le.mpr hwidth))
    have hpos : 0 < entrySize file t := by omega
    obtain ⟨scan, hscan⟩ := (h.exists_scanOf_iff hpos htype).mpr hfits
    obtain ⟨rfl, _⟩ := h.scanOf_header hpos htype hscan
    have hall : ∃ symbols, (records file t (entrySize file t)).mapM
        (image.symbolOf (ElfFile.header file t)) = .ok symbols := by
      refine exists_mapM_eq_ok_iff.mpr fun record hrecord => ?_
      obtain ⟨j, hj, rfl⟩ := List.mem_map.mp hrecord
      exact (h.exists_symbolOf_iff hwidth).mpr fun hfirst => hnames j hfirst (List.mem_range.mp hj)
    obtain ⟨symbols, hsymbols⟩ := hall
    unfold symbolsIn
    rw [hcount]
    refine exists_bind_eq_ok_iff.mpr ⟨_, hscan, ?_⟩
    exact exists_bind_eq_ok_iff.mpr ⟨symbols, hsymbols, _, rfl⟩

/-- The symbols of a section can be read if its entries are wide enough, it fits, and its names are
there. -/
theorem ends_symbolsIn {t : ℕ} (htype : type file t ≠ SectionType.noBits.number) :
    Ends image.path (malformedUnless (ReadableSymbols file t))
      (image.symbolsIn (ElfFile.header file t)) :=
  (h.malformed_symbolsIn htype).ends (h.exists_symbolsIn_iff htype)

end Shows

end Image
end ImportStubs
