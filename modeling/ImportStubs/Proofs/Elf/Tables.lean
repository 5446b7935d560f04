import ImportStubs.Proofs.Elf.Layout
import ImportStubs.Proofs.Symbol.ExtendedIndexes

/-!
# Stubs, symbols and indexes as the bytes of a file give them

The tables of a section, read at their places in the file. A section that an image could read lies
in the file, unless it is empty, and what was read are these tables; the text of every decoded
symbol stands in its string table.
-/

namespace ImportStubs

namespace ElfFile

variable (file : List UInt8)

/-- A section that is not empty ends within the file. -/
def Fits (i : ℕ) : Prop := size file i ≠ 0 → offset file i + size file i ≤ file.length

def records (i width : ℕ) : List Record :=
  (List.range (size file i / width)).map fun j =>
    ⟨j * width, (file.drop (offset file i + j * width)).take width⟩

def stubAt (kind : StubKind) (i j : ℕ) : Stub where
  kind := kind
  address := ((address file i + 16 * j) % 0x100000000 : ℕ)
  libraryNid := Word.at32 (offset file i + 16 * j) file
  moduleNid := Word.at32 (offset file i + 16 * j + 4) file
  targetNid := Word.at32 (offset file i + 16 * j + 8) file

def stubs (kind : StubKind) (i : ℕ) : List Stub :=
  (List.range (size file i / 16)).map (stubAt file kind i)

theorem map_ofRecord_records (kind : StubKind) (i : ℕ) :
    (records file i Stub.entrySize).map (Stub.ofRecord kind (address file i)) =
      stubs file kind i := by
  unfold records stubs
  rw [List.map_map]
  apply List.map_congr_left
  intro j _
  have hword : ∀ place, place + 4 ≤ 16 →
      Word.at32 place ((file.drop (offset file i + j * 16)).take 16) =
        Word.at32 (offset file i + 16 * j + place) file := by
    intro place hplace
    rw [Word.at32_slice hplace, Nat.mul_comm j 16]
  have haddress : ((address file i : Int) + ((j * 16 : ℕ) : Int)) % 0x100000000 =
      ((address file i + 16 * j) % 0x100000000 : ℕ) := by
    omega
  simp only [Function.comp_apply, Stub.ofRecord, stubAt, Stub.entrySize, haddress]
  rw [hword 0 (by decide), hword 4 (by decide), hword 8 (by decide), Nat.add_zero]

/-- A section is smaller than the address space, so the addresses of its stubs differ although they
wrap around. -/
theorem stubAt_address_injective {kind : StubKind} {i p q : ℕ} (hp : p < size file i / 16)
    (hq : q < size file i / 16)
    (h : (stubAt file kind i p).address = (stubAt file kind i q).address) : p = q := by
  have hsize : size file i < 0x100000000 := Word.at32_lt _ file
  have haddress : (address file i + 16 * p) % 0x100000000 =
      (address file i + 16 * q) % 0x100000000 :=
    Int.ofNat_inj.mp h
  omega

def symbolStart (t j : ℕ) : ℕ := offset file t + j * entrySize file t

/-- The number of entries that stay placeholders. -/
def placeholders (t : ℕ) : ℕ := max (info file t) 1

/-- A symbol by its position in a section, with the name that stands in the section's string
table. -/
def decodedAt (t j : ℕ) : Symbol :=
  let start := symbolStart file t j
  let info := (file.getD (start + 12) 0).toNat
  { index := j
    name := textAt file (link file t) (Word.at32 start file)
    value := Word.at32 (start + 4) file
    kind := .ofInfo info
    binding := .ofInfo info
    sectionIndex := Word.at16 (start + 14) file
    rawType := info % 16
    rawBinding := info / 16 }

def symbolAt (t j : ℕ) : Symbol :=
  if j < placeholders file t then .placeholder j else decodedAt file t j

def symbols (t : ℕ) : List Symbol :=
  (List.range (size file t / entrySize file t)).map (symbolAt file t)

def symbolBytes (t j : ℕ) : List UInt8 := (file.drop (symbolStart file t j)).take (entrySize file t)

section
variable {file} {t : ℕ} (hwidth : 16 ≤ entrySize file t) (j : ℕ)
include hwidth

theorem nameOffset_symbolBytes :
    Symbol.nameOffset (symbolBytes file t j) = Word.at32 (symbolStart file t j) file := by
  rw [Symbol.nameOffset, symbolBytes, Word.at32_slice (by omega), Nat.add_zero]

theorem decode_symbolBytes :
    Symbol.decode j (textAt file (link file t) (Word.at32 (symbolStart file t j) file))
        (symbolBytes file t j) =
      decodedAt file t j := by
  have hbyte : (symbolBytes file t j).getD 12 0 = file.getD (symbolStart file t j + 12) 0 := by
    rw [symbolBytes, List.getD_eq_getElem?_getD, List.getElem?_take_of_lt (by omega),
      List.getElem?_drop,
      List.getD_eq_getElem?_getD]
  unfold Symbol.decode decodedAt
  dsimp only
  rw [hbyte, symbolBytes, Word.at32_slice (by omega), Word.at16_slice (by omega)]

end

/-- Every symbol that is decoded has a name in the string table. -/
def HasNames (t : ℕ) : Prop :=
  ∀ j, placeholders file t ≤ j → j < size file t / entrySize file t →
    HasText file (link file t) (Word.at32 (symbolStart file t j) file)

/-- The entry that an index table holds for the symbol at a position. -/
def indexAt (x j : ℕ) : Option ℕ :=
  if j < size file x / 4 then some (Word.at32 (offset file x + 4 * j) file) else none

theorem entryAt_records (x j : ℕ) : Symbol.entryAt (records file x 4) j = indexAt file x j := by
  unfold Symbol.entryAt records indexAt
  rw [List.getElem?_map]
  by_cases h : j < size file x / 4
  · rw [List.getElem?_range h, if_pos h, Nat.mul_comm 4 j]
    simp only [Option.map_some, Word.at32_slice, Nat.le_refl, Nat.zero_add, Nat.add_zero]
  · rw [List.getElem?_eq_none (by simpa using h), if_neg h]
    rfl

end ElfFile

namespace Image.Shows

open ElfFile

variable {image : Image} {file : List UInt8} (h : image.Shows file)
include h

/-- A section with data in the file is scanned without a fault, and it fits. -/
theorem scanOf_header {i width : ℕ} (hwidth : 0 < width)
    (htype : type file i ≠ SectionType.noBits.number) {scan : Record.Scan}
    (hscan : image.scanOf width (ElfFile.header file i) = .ok scan) :
    scan = { records := records file i width } ∧ Fits file i := by
  obtain ⟨bytes, hpayload, rfl⟩ := map_eq_ok_iff.mp hscan
  have hkind : (ElfFile.header file i).kind? ≠ some .noBits := fun hkind =>
    htype (Int.ofNat_inj.mp (SectionHeader.kind?_eq_some_iff.mp hkind))
  unfold payload at hpayload
  by_cases hempty : size file i = 0
  · have hsize : (ElfFile.header file i).size = 0 := congrArg Nat.cast hempty
    rw [if_pos (Or.inr hsize)] at hpayload
    obtain rfl := Except.ok.inj hpayload
    refine ⟨?_, fun hne => absurd hempty hne⟩
    rw [wholeScan, records, hempty, hsize, Record.cut_of_lt hwidth, Nat.zero_div]
    rfl
  have hsize : (ElfFile.header file i).size ≠ 0 := fun hsize => hempty (Int.ofNat_inj.mp hsize)
  rw [if_neg (not_or_intro hkind hsize)] at hpayload
  obtain ⟨hfits, rfl⟩ := h.read_eq_ok_iff.mp hpayload
  refine ⟨?_, fun _ => hfits⟩
  have hlen : ((file.drop (offset file i)).take (size file i)).length = size file i := by
    rw [List.length_take, List.length_drop]
    omega
  have hfault : ¬(((file.drop (offset file i)).take (size file i)).length : Int) <
      (ElfFile.header file i).size := by
    rw [hlen]
    exact Int.lt_irrefl _
  rw [wholeScan, if_neg hfault, Record.cut_fst_eq_map hwidth, hlen, records]
  congr 1
  apply List.map_congr_left
  intro j hj
  have hinside : j * width + width ≤ size file i := by
    have hle := (Nat.le_div_iff_mul_le hwidth).mp (Nat.succ_le_of_lt (List.mem_range.mp hj))
    rwa [Nat.succ_mul] at hle
  rw [List.drop_take, List.drop_drop, List.take_take, Nat.min_eq_left (by omega), Nat.zero_add]

/-- The stubs that were read are those of the file. -/
theorem stubsIn_header {i : ℕ} {kind : StubKind} (htype : type file i ≠ SectionType.noBits.number)
    {found : List Stub} (hstubs : image.stubsIn kind (ElfFile.header file i) = .ok found) :
    found = stubs file kind i ∧ Fits file i := by
  obtain ⟨scan, hscan, hfound⟩ := bind_eq_ok_iff.mp hstubs
  obtain ⟨rfl, hfits⟩ := h.scanOf_header (by decide) htype hscan
  obtain rfl := Except.ok.inj hfound
  exact ⟨map_ofRecord_records file kind i, hfits⟩

/-- A record of a symbol table becomes the symbol of the file at its position. -/
theorem symbolOf_record {t j : ℕ} (hwidth : 16 ≤ entrySize file t) {symbol : Symbol}
    (hsymbol : image.symbolOf (ElfFile.header file t)
      ⟨j * entrySize file t, symbolBytes file t j⟩ = .ok symbol) :
    symbol = symbolAt file t j ∧
      (placeholders file t ≤ j →
        HasText file (link file t) (Word.at32 (symbolStart file t j) file)) := by
  have hindex : j * entrySize file t / (ElfFile.header file t).entrySize.toNat = j :=
    Nat.mul_div_cancel j (Nat.lt_of_lt_of_le (by decide) hwidth)
  have hfirst : (j : Int) < Symbol.firstDecoded (ElfFile.header file t) ↔
      j < placeholders file t := by
    have hmax : Symbol.firstDecoded (ElfFile.header file t) = max (info file t : Int) 1 := rfl
    rw [hmax, placeholders]
    omega
  unfold symbolOf at hsymbol
  dsimp only at hsymbol
  rw [hindex] at hsymbol
  unfold symbolAt
  by_cases hplace : j < placeholders file t
  · rw [if_pos (hfirst.mpr hplace)] at hsymbol
    rw [if_pos hplace]
    exact ⟨(Except.ok.inj hsymbol).symm, fun hle => absurd hplace (Nat.not_lt.mpr hle)⟩
  rw [if_neg fun hlt => hplace (hfirst.mp hlt)] at hsymbol
  rw [if_neg hplace]
  obtain ⟨text, htext, hdecode⟩ := bind_eq_ok_iff.mp hsymbol
  obtain ⟨hhas, rfl⟩ := h.freshString_eq_ok_iff.mp htext
  obtain rfl := Except.ok.inj hdecode
  rw [nameOffset_symbolBytes hwidth] at hhas
  rw [nameOffset_symbolBytes hwidth, decode_symbolBytes hwidth]
  exact ⟨rfl, fun _ => hhas⟩

/-- The symbols that were read are those of the file, and their names stand there. -/
theorem symbolsIn_header {t : ℕ} (htype : type file t ≠ SectionType.noBits.number)
    {found : List Symbol} (hsymbols : image.symbolsIn (ElfFile.header file t) = .ok found) :
    16 ≤ entrySize file t ∧ found = symbols file t ∧ Fits file t ∧ HasNames file t := by
  unfold symbolsIn at hsymbols
  cases hcount : Symbol.count (ElfFile.header file t) with
  | error cause =>
    rw [hcount] at hsymbols
    cases hsymbols
  | ok count =>
    have hwidth : 16 ≤ entrySize file t := Int.ofNat_le.mp (Symbol.le_entrySize_of_count hcount)
    rw [hcount] at hsymbols
    obtain ⟨scan, hscan, hrest⟩ := bind_eq_ok_iff.mp hsymbols
    have hscan : image.scanOf (entrySize file t) (ElfFile.header file t) = .ok scan := hscan
    obtain ⟨rfl, hfits⟩ := h.scanOf_header (by omega) htype hscan
    obtain ⟨decoded, hdecoded, hok⟩ := bind_eq_ok_iff.mp hrest
    obtain rfl := Except.ok.inj hok
    have hall := mapM_eq_ok_iff.mp hdecoded
    rw [records, List.forall₂_map_left_iff] at hall
    have heq : decoded = symbols file t :=
      eq_map_of_forall₂ hall fun j _ symbol hsymbol => (h.symbolOf_record hwidth hsymbol).1
    refine ⟨hwidth, heq, hfits, ?_⟩
    rw [heq, symbols, List.forall₂_map_right_iff, List.forall₂_same] at hall
    intro j hfirst hlast
    exact (h.symbolOf_record hwidth (hall j (List.mem_range.mpr hlast))).2 hfirst

end Image.Shows

end ImportStubs
