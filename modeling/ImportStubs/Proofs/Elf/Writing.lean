import ImportStubs.Proofs.Elf.Layout
import ImportStubs.Proofs.Text.Encoding

/-!
# Writing a file

The sections of a file are written one after another behind the header, each padded to a multiple of
four, and a table of the section names comes last among them. The section table follows. Whatever
stands in the file can be read back at its place: a word from the words of the header or an entry,
the data of a section from its offset, and a name from its place in the table of names.
-/

namespace ImportStubs.ElfWriter

open ElfFile

/-- A section to be written. A name that held a null character would end before it. -/
structure SectionSource where
  name : List Char
  name_nonnull : '\x00' ∉ name
  type : UInt32 := 0
  flags : UInt32 := 0
  address : UInt32 := 0
  link : UInt32 := 0
  info : UInt32 := 0
  entrySize : UInt32 := 0
  data : List UInt8 := []

/-- The header gives the number of sections and the position of the name table, or the null section
holds them. -/
inductive Numbering where
  | inHeader
  | extended
deriving DecidableEq, Repr

def halves (ns : List ℕ) : List UInt8 := ns.flatMap (Word.toBytes 2)

def words (ns : List ℕ) : List UInt8 := ns.flatMap (Word.toBytes 4)

def padding (n : ℕ) : List UInt8 := List.replicate ((4 - n % 4) % 4) 0

def align (n : ℕ) : ℕ := n + (padding n).length

def encodeName (source : SectionSource) : List UInt8 := Utf8.encode source.name ++ [0]

def encodeNames (sources : List SectionSource) : List UInt8 := 0 :: sources.flatMap encodeName

def nameSection (data : List UInt8) : SectionSource where
  name := ['.', 's', 'h', 's', 't', 'r', 't', 'a', 'b']
  name_nonnull := by decide
  type := 3
  data := data

/-- The sections and the one with their names, which is named itself. -/
def withNames (sources : List SectionSource) : List SectionSource :=
  sources ++ [nameSection (encodeNames (sources ++ [nameSection []]))]

/-- A section with the places of its name and its data. -/
structure Placed where
  source : SectionSource
  nameStart : ℕ
  start : ℕ

/-- The places of some sections, where the first name and the first data can be put. -/
def place (nameStart start : ℕ) : List SectionSource → List Placed
  | [] => []
  | source :: rest =>
    ⟨source, nameStart, align start⟩ ::
      place (nameStart + (encodeName source).length) (align start + source.data.length) rest

def contents (start : ℕ) : List SectionSource → List UInt8
  | [] => padding start
  | source :: rest =>
    padding start ++ source.data ++ contents (align start + source.data.length) rest

/-- The ten words of a section's entry. -/
def Placed.fields (p : Placed) : List ℕ :=
  [p.nameStart, p.source.type.toNat, p.source.flags.toNat, p.source.address.toNat, p.start,
    p.source.data.length, p.source.link.toNat, p.source.info.toNat, 4, p.source.entrySize.toNat]

/-- The ten words of the null section's entry, for the number of entries. -/
def nullFields (count : ℕ) : Numbering → List ℕ
  | .inHeader => [0, 0, 0, 0, 0, 0, 0, 0, 0, 0]
  | .extended => [0, 0, 0, 0, 0, count, count - 1, 0, 0, 0]

/-- The last two numbers of the header, for the number of entries. -/
def lastHalves (count : ℕ) : Numbering → List ℕ
  | .inHeader => [count, count - 1]
  | .extended => [0, 0xFFFF]

def fileHeader (numbering : Numbering) (table count : ℕ) : List UInt8 :=
  ElfHeader.magic ++ [1, 1, 1, 0, 0, 0, 0, 0, 0, 0, 0, 0] ++ halves [2, 40] ++
    words [1, 0x81000000, 0, table, 0x05000000] ++ halves [52, 0, 0, 40] ++
    halves (lastHalves count numbering)

def entries (numbering : Numbering) (sources : List SectionSource) : List (List ℕ) :=
  nullFields (sources.length + 1) numbering :: (place 1 52 sources).map Placed.fields

/-- A file whose last section holds the names of all. -/
def writeAll (numbering : Numbering) (sources : List SectionSource) : List UInt8 :=
  fileHeader numbering (52 + (contents 52 sources).length) (sources.length + 1) ++
    contents 52 sources ++ ((entries numbering sources).map words).flatten

def write (numbering : Numbering) (sources : List SectionSource) : List UInt8 :=
  writeAll numbering (withNames sources)

/-- The bytes stand in a file from a place on. -/
def Stands (file : List UInt8) (start : ℕ) (bytes : List UInt8) : Prop :=
  ∃ before after, file = before ++ bytes ++ after ∧ before.length = start

namespace Stands

variable {file : List UInt8} {start : ℕ} {bytes : List UInt8}

theorem part {before after : List UInt8} (h : Stands file start (before ++ bytes ++ after)) :
    Stands file (start + before.length) bytes := by
  obtain ⟨front, back, rfl, rfl⟩ := h
  exact ⟨front ++ before, after ++ back, by simp only [List.append_assoc], List.length_append⟩

theorem left {after : List UInt8} (h : Stands file start (bytes ++ after)) :
    Stands file start bytes :=
  @part file start bytes [] after h

theorem right {before : List UInt8} (h : Stands file start (before ++ bytes)) :
    Stands file (start + before.length) bytes := by
  rw [← List.append_nil (before ++ bytes)] at h
  exact h.part

variable (h : Stands file start bytes)
include h

theorem drop_eq : ∃ after, file.drop start = bytes ++ after := by
  obtain ⟨before, after, rfl, rfl⟩ := h
  exact ⟨after, by rw [List.append_assoc, List.drop_left]⟩

theorem slice_eq : (file.drop start).take bytes.length = bytes := by
  obtain ⟨after, hdrop⟩ := h.drop_eq
  rw [hdrop, List.take_left]

theorem end_le : start + bytes.length ≤ file.length := by
  obtain ⟨before, after, rfl, rfl⟩ := h
  simp only [List.length_append]
  omega

theorem at32 {place : ℕ} (hplace : place + 4 ≤ bytes.length) :
    Word.at32 (start + place) file = Word.at32 place bytes := by
  rw [← Word.at32_slice hplace, h.slice_eq]

end Stands

theorem Stands.flatten {file : List UInt8} {start width : ℕ} {parts : List (List UInt8)}
    (h : Stands file start parts.flatten) (hwidth : ∀ part ∈ parts, part.length = width) {i : ℕ}
    {part : List UInt8} (hi : parts[i]? = some part) : Stands file (start + i * width) part := by
  induction parts generalizing start i with
  | nil => cases hi
  | cons first rest ih =>
    rw [List.flatten_cons] at h
    cases i with
    | zero =>
      obtain rfl := Option.some.inj hi
      rw [Nat.zero_mul, Nat.add_zero]
      exact h.left
    | succ i =>
      have hrest := ih h.right (fun part hpart => hwidth part (List.mem_cons_of_mem _ hpart)) hi
      rw [hwidth first List.mem_cons_self] at hrest
      rwa [Nat.succ_mul, Nat.add_comm (i * width), ← Nat.add_assoc]

theorem length_words (ns : List ℕ) : (words ns).length = 4 * ns.length := by
  induction ns with
  | nil => rfl
  | cons n ns ih =>
    rw [words, List.flatMap_cons, List.length_append, Word.length_toBytes, ← words, ih,
      List.length_cons]
    omega

theorem at32_words (ns : List ℕ) (k : ℕ) :
    Word.at32 (4 * k) (words ns) = ns.getD k 0 % 0x100000000 := by
  induction ns generalizing k with
  | nil => simp [words, Word.at32, Word.ofBytes]
  | cons n ns ih =>
    have hlength := Word.length_toBytes 4 n
    unfold Word.at32 words at *
    rw [List.flatMap_cons]
    cases k with
    | zero =>
      rw [Nat.mul_zero, List.drop_zero, List.take_left' hlength]
      exact Word.ofBytes_toBytes 4 n
    | succ k =>
      have hplace : 4 * (k + 1) = (Word.toBytes 4 n).length + 4 * k := by omega
      rw [hplace, List.drop_length_add_append, ih]
      rfl

theorem map_source_place (nameStart start : ℕ) (sources : List SectionSource) :
    (place nameStart start sources).map Placed.source = sources := by
  induction sources generalizing nameStart start with
  | nil => rfl
  | cons source rest ih => rw [place, List.map_cons, ih]

theorem length_place (nameStart start : ℕ) (sources : List SectionSource) :
    (place nameStart start sources).length = sources.length := by
  rw [← List.length_map, map_source_place]

theorem stands_data {file : List UInt8} {nameStart start : ℕ} {sources : List SectionSource}
    (h : Stands file start (contents start sources)) {i : ℕ} {p : Placed}
    (hp : (place nameStart start sources)[i]? = some p) : Stands file p.start p.source.data := by
  induction sources generalizing nameStart start i with
  | nil => cases hp
  | cons source rest ih =>
    rw [contents, List.append_assoc] at h
    cases i with
    | zero =>
      obtain rfl := Option.some.inj hp
      exact h.right.left
    | succ i => exact ih h.right.right hp

theorem stands_name {names : List UInt8} {nameStart start : ℕ} {sources : List SectionSource}
    (h : Stands names nameStart (sources.flatMap encodeName)) {i : ℕ} {p : Placed}
    (hp : (place nameStart start sources)[i]? = some p) :
    Stands names p.nameStart (encodeName p.source) := by
  induction sources generalizing nameStart start i with
  | nil => cases hp
  | cons source rest ih =>
    rw [List.flatMap_cons] at h
    cases i with
    | zero =>
      obtain rfl := Option.some.inj hp
      exact h.left
    | succ i => exact ih h.right hp

/-- A name is read up to the zero byte that ends it. -/
theorem decodeLossy_name (source : SectionSource) (after : List UInt8) :
    Utf8.decodeLossy ((encodeName source ++ after).takeWhile (· ≠ 0)) = source.name := by
  have hname : ∀ b ∈ Utf8.encode source.name, (decide (b ≠ 0)) = true := by
    intro b hb
    refine decide_eq_true fun hzero => ?_
    exact Utf8.zero_notMem_encode source.name_nonnull (hzero ▸ hb)
  rw [encodeName, List.append_assoc, List.takeWhile_append_of_pos hname]
  simp [Utf8.decodeLossy_encode]

end ImportStubs.ElfWriter
