import ImportStubs.Proofs.Elf.Opening

/-!
# The section table as the bytes of a file give it

All numbers are read at their places in the file, whatever they are. An image that could be opened
holds exactly the sections of its file, with the names that stand in the name table.
-/

namespace ImportStubs

/-- The number that stands for a section type. -/
def SectionType.number : SectionType → ℕ
  | null => 0
  | programBits => 1
  | symbolTable => 2
  | stringTable => 3
  | noBits => 8
  | extendedIndexes => 18

theorem SectionHeader.kind?_eq_some_iff {s : SectionHeader} {kind : SectionType} :
    s.kind? = some kind ↔ s.type = kind.number := by
  unfold kind? SectionType.ofNumber?
  cases kind <;> simp only [SectionType.number] <;> split_ifs <;> simp <;> omega

namespace ElfFile

variable (file : List UInt8)

def tableOffset : ℕ := Word.at32 32 file

def entryWidth : ℕ := Word.at16 46 file

/-- One of the ten words of an entry of the section table. -/
def field (i place : ℕ) : ℕ := Word.at32 (tableOffset file + i * entryWidth file + 4 * place) file

def type (i : ℕ) : ℕ := field file i 1

def address (i : ℕ) : ℕ := field file i 3

def offset (i : ℕ) : ℕ := field file i 4

def size (i : ℕ) : ℕ := field file i 5

def link (i : ℕ) : ℕ := field file i 6

def info (i : ℕ) : ℕ := field file i 7

def entrySize (i : ℕ) : ℕ := field file i 9

/-- The number of sections with the null section; a count of zero means that the null section's size
holds it. -/
def sectionCount : ℕ :=
  if tableOffset file = 0 then 0
  else max 1 (if Word.at16 48 file = 0 then size file 0 else Word.at16 48 file)

/-- The null section is not among the sections. -/
def IsSection (i : ℕ) : Prop := 0 < i ∧ i < sectionCount file

/-- The position of the section that holds the names; the largest number means that the null
section's link holds it. -/
def nameTable : ℕ := if Word.at16 50 file = 0xFFFF then link file 0 else Word.at16 50 file

/-- A section of type STRTAB that lies in the file and reaches beyond an offset. -/
structure HasText (table start : ℕ) : Prop where
  isSection : IsSection file table
  type_eq : type file table = SectionType.stringTable.number
  start_lt : start < size file table
  inside : offset file table + size file table ≤ file.length

/-- The text from an offset of a section up to a zero byte or the end of the section. -/
def textAt (table start : ℕ) : Text :=
  Text.ofChars <| Utf8.decodeLossy <|
    ((file.drop (offset file table + start)).take (size file table - start)).takeWhile (· ≠ 0)

def name (i : ℕ) : Text := textAt file (nameTable file) (field file i 0)

/-- An entry of the section table without its name. -/
def entry (i : ℕ) : SectionHeader where
  index := i
  nameOffset := field file i 0
  type := type file i
  flags := field file i 2
  address := address file i
  offset := offset file i
  size := size file i
  link := link file i
  info := info file i
  alignment := field file i 8
  entrySize := entrySize file i

/-- A section with its name; the null section has none. -/
def header (i : ℕ) : SectionHeader :=
  { entry file i with name := if i = 0 then [] else name file i }

theorem sectionOffset_decode : (ElfHeader.decode file).sectionOffset = tableOffset file := rfl

theorem sectionEntrySize_decode : (ElfHeader.decode file).sectionEntrySize = entryWidth file := rfl

theorem sectionCount_decode : (ElfHeader.decode file).sectionCount = Word.at16 48 file := rfl

theorem decode_slice (i : ℕ) :
    SectionHeader.decode i
        ((file.drop (tableOffset file + i * entryWidth file)).take SectionHeader.byteSize) =
      entry file i := by
  unfold SectionHeader.decode entry type address offset size link info entrySize field
    SectionHeader.byteSize
  simp only [Word.at32_slice, Nat.reduceAdd, Nat.reduceLeDiff, Nat.reduceMul, Nat.mul_zero,
    Nat.mul_one]

end ElfFile

namespace Image

open ElfFile

variable {image : Image} {file : List UInt8}

theorem readSection_eq_ok {i : ℕ} {s : SectionHeader}
    (hheader : image.header = ElfHeader.decode image.bytes) (h : image.readSection i = .ok s) :
    s = entry image.bytes i := by
  obtain ⟨bytes, hread, rfl⟩ := map_eq_ok_iff.mp h
  obtain ⟨_, _, _, _, rfl⟩ := read_eq_ok_iff.mp hread
  rw [hheader, sectionOffset_decode, sectionEntrySize_decode, Int.toNat_natCast, ← decode_slice]
  congr 3

theorem readSections_eq_ok {index count : ℕ} {sections : List SectionHeader}
    (hheader : image.header = ElfHeader.decode image.bytes)
    (h : image.readSections index count = .ok sections) :
    sections = (List.range' index count).map (entry image.bytes) := by
  induction count generalizing index sections with
  | zero =>
    obtain rfl := Except.ok.inj h
    rfl
  | succ count ih =>
    obtain ⟨s, hs, hrest⟩ := bind_eq_ok_iff.mp h
    obtain ⟨rest, hsections, hpure⟩ := bind_eq_ok_iff.mp hrest
    obtain rfl : s :: rest = sections := Except.ok.inj hpure
    rw [readSection_eq_ok hheader hs, ih hsections, List.range'_succ, List.map_cons]

/-- The table is read entry by entry, as many as the header or the null section counts. -/
theorem sectionTable_eq (hheader : image.header = ElfHeader.decode image.bytes) :
    image.sectionTable =
      if tableOffset image.bytes ≠ 0 ∧ entryWidth image.bytes < SectionHeader.byteSize then
        .error (image.fault (.smallSectionEntry (entryWidth image.bytes)))
      else image.readSections 0 (sectionCount image.bytes) := by
  unfold sectionTable sectionCount
  rw [hheader, sectionOffset_decode, sectionEntrySize_decode, sectionCount_decode]
  by_cases htable : tableOffset image.bytes = 0
  · rw [if_pos htable, if_pos htable, if_neg fun h => h.1 htable]
    rfl
  rw [if_neg htable, if_neg htable]
  by_cases hsmall : entryWidth image.bytes < SectionHeader.byteSize
  · rw [if_pos hsmall, if_pos ⟨htable, hsmall⟩]
  rw [if_neg hsmall, if_neg fun h => hsmall h.2]
  have hpos : ∀ n, max 1 n = (n - 1) + 1 := by omega
  rw [hpos, readSections]
  cases hnull : image.readSection 0 with
  | error e => rfl
  | ok null =>
    obtain rfl := readSection_eq_ok hheader hnull
    rfl

theorem sectionTable_eq_ok {sections : List SectionHeader}
    (hheader : image.header = ElfHeader.decode image.bytes)
    (h : image.sectionTable = .ok sections) :
    sections = (List.range (sectionCount image.bytes)).map (entry image.bytes) := by
  rw [sectionTable_eq hheader] at h
  split_ifs at h
  rw [readSections_eq_ok hheader h, List.range_eq_range']

theorem sectionAt_eq_ok_iff {i : ℕ} {s : SectionHeader} :
    image.sectionAt i = .ok s ↔ 0 < i ∧ image.sections[i]? = some s := by
  unfold sectionAt
  by_cases hpos : 0 < i
  · simp only [Int.natCast_pos, hpos, if_true, Int.toNat_natCast, true_and]
    cases image.sections[i]? <;> simp
  · simp [hpos]

/-- The image is open and has the sections of the file, up to their names. -/
structure Shows (image : Image) (file : List UInt8) : Prop where
  bytes_eq : image.bytes = file
  closed_eq : image.closed = false
  entries_eq :
    image.sections.map SectionHeader.unnamed = (List.range (sectionCount file)).map (entry file)

namespace Shows

variable (h : image.Shows file)
include h

theorem length_sections : image.sections.length = sectionCount file := by
  simpa using congrArg List.length h.entries_eq

theorem entry_of_getElem? {i : ℕ} {s : SectionHeader} (hs : image.sections[i]? = some s) :
    i < sectionCount file ∧ ∃ name, s = { entry file i with name } := by
  have hget := congrArg (·[i]?) h.entries_eq
  have hlt : i < sectionCount file := by
    rw [← h.length_sections]
    exact (List.getElem?_eq_some_iff.mp hs).1
  simp only [List.getElem?_map, hs, Option.map_some, List.getElem?_range hlt,
    Option.some.injEq] at hget
  refine ⟨hlt, s.name, ?_⟩
  rw [← hget]
  rfl

theorem exists_getElem? {i : ℕ} (hi : i < sectionCount file) :
    ∃ s, image.sections[i]? = some s := by
  rw [← h.length_sections] at hi
  exact ⟨_, List.getElem?_eq_getElem hi⟩

theorem read_eq_ok_iff {start count : ℕ} {bytes : List UInt8} :
    image.read start count = .ok bytes ↔
      start + count ≤ file.length ∧ bytes = (file.drop start).take count := by
  rw [Image.read_eq_ok_iff, h.closed_eq, fileSize, h.bytes_eq]
  simp only [Int.natCast_nonneg, Int.toNat_natCast, true_and]
  exact_mod_cast Iff.rfl

/-- The bytes of a string table are those of a section of type STRTAB that lies in the file. -/
theorem stringTable_eq_ok_iff {table : ℕ} {bytes : List UInt8} :
    image.stringTable table = .ok bytes ↔
      IsSection file table ∧ type file table = SectionType.stringTable.number ∧
        offset file table + size file table ≤ file.length ∧
        bytes = (file.drop (offset file table)).take (size file table) := by
  unfold stringTable
  rw [bind_eq_ok_iff]
  constructor
  · rintro ⟨s, hs, hread⟩
    obtain ⟨hpos, hget⟩ := sectionAt_eq_ok_iff.mp hs
    obtain ⟨hlt, name, rfl⟩ := h.entry_of_getElem? hget
    split_ifs at hread with hkind
    have htype : (type file table : Int) = _ := SectionHeader.kind?_eq_some_iff.mp hkind
    exact ⟨⟨hpos, hlt⟩, Int.ofNat_inj.mp htype, h.read_eq_ok_iff.mp hread⟩
  · rintro ⟨⟨hpos, hlt⟩, htype, hread⟩
    obtain ⟨s, hget⟩ := h.exists_getElem? hlt
    obtain ⟨_, name, rfl⟩ := h.entry_of_getElem? hget
    refine ⟨_, sectionAt_eq_ok_iff.mpr ⟨hpos, hget⟩, ?_⟩
    rw [if_pos (SectionHeader.kind?_eq_some_iff.mpr (congrArg Nat.cast htype))]
    exact h.read_eq_ok_iff.mpr hread

omit h in
theorem stringIn_slice_eq_ok_iff {table start : ℕ} {text : Text}
    (hinside : offset file table + size file table ≤ file.length) :
    image.stringIn table start ((file.drop (offset file table)).take (size file table)) = .ok text ↔
      start < size file table ∧ text = textAt file table start := by
  have hlen : ((file.drop (offset file table)).take (size file table)).length =
      size file table := by
    rw [List.length_take, List.length_drop]
    omega
  unfold stringIn textAt
  rw [hlen, Int.toNat_natCast, List.drop_take, List.drop_drop]
  by_cases hstart : start < size file table
  · rw [if_neg (by omega), Except.ok.injEq, eq_comm]
    exact (and_iff_right hstart).symm
  · rw [if_pos (by omega)]
    simp [hstart]

/-- A text is found exactly where the file has one. -/
theorem freshString_eq_ok_iff {table start : ℕ} {text : Text} :
    image.freshString table start = .ok text ↔
      HasText file table start ∧ text = textAt file table start := by
  unfold freshString
  rw [bind_eq_ok_iff]
  constructor
  · rintro ⟨bytes, htable, htext⟩
    obtain ⟨hsection, htype, hinside, rfl⟩ := h.stringTable_eq_ok_iff.mp htable
    obtain ⟨hstart, rfl⟩ := (stringIn_slice_eq_ok_iff hinside).mp htext
    exact ⟨⟨hsection, htype, hstart, hinside⟩, rfl⟩
  · rintro ⟨⟨hsection, htype, hstart, hinside⟩, rfl⟩
    exact ⟨_, h.stringTable_eq_ok_iff.mpr ⟨hsection, htype, hinside, rfl⟩,
      (stringIn_slice_eq_ok_iff hinside).mpr ⟨hstart, rfl⟩⟩

theorem nameTable_eq (hheader : image.header = ElfHeader.decode file) (hne : image.sections ≠ []) :
    image.nameTable = ElfFile.nameTable file := by
  have hword : image.header.nameTable = Word.at16 50 file := by
    rw [hheader]
    rfl
  unfold Image.nameTable ElfFile.nameTable
  rw [hword]
  split_ifs
  · cases hsections : image.sections with
    | nil => exact absurd hsections hne
    | cons null rest =>
      obtain ⟨_, name, rfl⟩ := h.entry_of_getElem? (i := 0) (by rw [hsections]; rfl)
      rfl
  · rfl

end Shows

theorem eq_map_of_forall₂ {α β : Type} {R : α → β → Prop} {g : α → β} {xs : List α} {ys : List β}
    (h : List.Forall₂ R xs ys) (hR : ∀ x ∈ xs, ∀ y, R x y → y = g x) : ys = xs.map g := by
  induction h with
  | nil => rfl
  | @cons x y xs ys hxy _ ih =>
    rw [List.map_cons, hR x (by simp) y hxy, ih fun x hx => hR x (List.mem_cons_of_mem _ hx)]

theorem checkHeader_eq_ok {header : ElfHeader} (h : checkHeader file = .ok header) :
    header = ElfHeader.decode file := by
  unfold checkHeader at h
  dsimp only at h
  split_ifs at h
  exact (Except.ok.inj h).symm

/-- The names that are found for sections of the file are those that stand in its name table. -/
theorem Shows.header_of_nameOf (h : image.Shows file) {i : ℕ} {s : SectionHeader} (hi : 0 < i)
    (hs : image.nameOf (ElfFile.nameTable file) (entry file i) = .ok s) :
    s = ElfFile.header file i := by
  obtain ⟨name, hname, hok⟩ := bind_eq_ok_iff.mp hs
  obtain rfl := Except.ok.inj hok
  obtain ⟨_, rfl⟩ := h.freshString_eq_ok_iff.mp hname
  rw [ElfFile.header, if_neg (by omega), ElfFile.name]

/-- Naming the sections of an image gives each the name that stands in the file for it. -/
theorem sections_of_named {unnamed : Image} (hshows : unnamed.Shows file)
    (hsound : unnamed.TablesSound) (hheader : unnamed.header = ElfHeader.decode file)
    (hsections : unnamed.sections = (List.range (sectionCount file)).map (entry file))
    (hnames : named unnamed = .ok image) :
    image.Shows file ∧
      image.sections = (List.range (sectionCount file)).map (ElfFile.header file) := by
  have hnameTable := hshows.nameTable_eq hheader
  obtain ⟨sections, tables, rfl, _, hsame, hhead, hnamed⟩ := named_eq_ok hsound hnames
  refine ⟨⟨hshows.bytes_eq, hshows.closed_eq, hsame.trans hshows.entries_eq⟩, ?_⟩
  cases hcount : sectionCount file with
  | zero =>
    have hnil : sections.map SectionHeader.unnamed = [] := by
      rw [hsame, hsections, hcount]
      rfl
    exact List.map_eq_nil_iff.mp hnil
  | succ count =>
    have hcons : unnamed.sections = entry file 0 :: (List.range' 1 count).map (entry file) := by
      rw [hsections, hcount, List.range_eq_range', List.range'_succ, List.map_cons]
    rw [hcons] at hhead hnamed hnameTable
    rw [hnameTable (List.cons_ne_nil _ _), List.tail_cons, List.forall₂_map_left_iff] at hnamed
    have htail : sections.tail = (List.range' 1 count).map (ElfFile.header file) := by
      apply eq_map_of_forall₂ hnamed
      intro i hi s hs
      exact hshows.header_of_nameOf (List.mem_range'_1.mp hi).1 hs
    rw [List.range_eq_range', List.range'_succ, List.map_cons, ← htail]
    cases sections with
    | nil => cases hhead
    | cons null rest =>
      obtain rfl := Option.some.inj hhead
      rfl

/-- An image that could be opened holds the sections of its file with their names. -/
theorem sections_of_openAt {path : Text} {pieceSize limit : Int}
    (h : openAt path pieceSize limit (.file file) = .ok image) :
    image.Shows file ∧
      image.sections = (List.range (sectionCount file)).map (ElfFile.header file) := by
  obtain ⟨bytes, fileHeader, entries, hfile, hheader, hentries, hnames⟩ := openAt_eq_ok h
  obtain rfl := Source.file.inj hfile
  have hheader := checkHeader_eq_ok hheader
  have hentries :=
    @sectionTable_eq_ok (bare path pieceSize file fileHeader []) entries hheader hentries
  have hshows : (bare path pieceSize file fileHeader entries).Shows file := by
    refine ⟨rfl, rfl, ?_⟩
    rw [bare, hentries, List.map_map]
    rfl
  exact sections_of_named hshows (tablesSound_bare path pieceSize file fileHeader entries) hheader
    hentries hnames

end Image
end ImportStubs
