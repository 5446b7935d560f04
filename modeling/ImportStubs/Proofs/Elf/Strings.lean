import Mathlib.Data.List.TakeWhile
import ImportStubs.Proofs.Elf.Calls
import ImportStubs.Proofs.Elf.Defects
import ImportStubs.Proofs.Session.Sections
import ImportStubs.Proofs.Text.Replacement
import ImportStubs.Proofs.Text.Surrogates

/-!
# Strings of string tables

A string is made of the bytes from its offset up to the first zero byte, or up to the end of the
table if there is none. Damaged bytes show as U+FFFD, so a text without that character tells the
bytes exactly. This makes the names of stub sections as good as their bytes.
-/

namespace ImportStubs

/-- The string at the front of some bytes, up to a zero byte or their end. -/
structure IsString (bytes raw : List UInt8) : Prop where
  zero_notMem : 0 ∉ raw
  ends : bytes = raw ∨ ∃ after, bytes = raw ++ 0 :: after

theorem isString_takeWhile (bytes : List UInt8) :
    IsString bytes (bytes.takeWhile (· ≠ 0)) := by
  constructor
  · intro hzero
    simpa using List.mem_takeWhile_imp hzero
  · induction bytes with
    | nil => exact .inl rfl
    | cons b bytes ih =>
      by_cases hb : b = 0
      · exact .inr ⟨bytes, by simp [hb]⟩
      · simpa [hb] using ih

theorem IsString.eq_takeWhile {bytes raw : List UInt8} (h : IsString bytes raw) :
    raw = bytes.takeWhile (· ≠ 0) := by
  have hraw : ∀ b ∈ raw, decide (b ≠ 0) = true := by
    intro b hb
    apply decide_eq_true
    rintro rfl
    exact h.zero_notMem hb
  rcases h.ends with rfl | ⟨after, rfl⟩
  · exact (List.takeWhile_eq_self_iff.mpr hraw).symm
  · rw [List.takeWhile_append_of_pos hraw]
    simp

theorem isString_iff {bytes raw : List UInt8} :
    IsString bytes raw ↔ raw = bytes.takeWhile (· ≠ 0) := by
  constructor
  · exact IsString.eq_takeWhile
  · rintro rfl
    exact isString_takeWhile bytes

/-- The answer to a look-up, by the bytes from the offset to the end of the table. -/
structure TextOf (bytes : List UInt8) (answer : Except ReadError Text) : Prop where
  decoded : ∃ raw cs, IsString bytes raw ∧ Utf8.Decodes raw cs ∧ answer = .ok (.ofChars cs)
  no_null : ∀ text, answer = .ok text → .char '\x00' ∉ text
  of_encode : ∀ cs, '\x00' ∉ cs →
    bytes = Utf8.encode cs ∨ (∃ after, bytes = Utf8.encode cs ++ 0 :: after) →
      answer = .ok (.ofChars cs)
  eq_iff : ∀ text, .char '\uFFFD' ∉ text →
    (answer = .ok text ↔ ∃ cs, text = .ofChars cs ∧ IsString bytes (Utf8.encode cs))

theorem textOf_decodeLossy (bytes : List UInt8) :
    TextOf bytes (.ok (.ofChars (Utf8.decodeLossy (bytes.takeWhile (· ≠ 0))))) := by
  have hstring := isString_takeWhile bytes
  generalize bytes.takeWhile (· ≠ 0) = raw at hstring
  have hdecodes := Utf8.decodes_decodeLossy raw
  have hencoded : ∀ cs, IsString bytes (Utf8.encode cs) → Utf8.decodeLossy raw = cs := by
    intro cs hcs
    have hraw : raw = Utf8.encode cs := hstring.eq_takeWhile.trans hcs.eq_takeWhile.symm
    rw [hraw, Utf8.decodeLossy_encode]
  constructor
  · exact ⟨raw, _, hstring, hdecodes, rfl⟩
  · intro text htext hzero
    obtain rfl := Except.ok.inj htext
    obtain ⟨c, hc, hnull⟩ := List.mem_map.mp hzero
    obtain rfl := CodePoint.char.inj hnull
    exact hstring.zero_notMem (hdecodes.mem hc (by decide) 0 (by decide))
  · intro cs hnull hbytes
    rw [hencoded cs ⟨Utf8.zero_notMem_encode hnull, hbytes⟩]
  · intro text hmark
    constructor
    · intro htext
      obtain rfl := Except.ok.inj htext
      refine ⟨_, rfl, ?_⟩
      rw [← hdecodes.eq_encode]
      · exact hstring
      · intro hmem
        exact hmark (List.mem_map_of_mem hmem)
    · rintro ⟨cs, rfl, hcs⟩
      rw [hencoded cs hcs]

namespace ElfFile

/-- The bytes of a section from an offset on. -/
def bytesFrom (file : List UInt8) (table start : ℕ) : List UInt8 :=
  (file.drop (offset file table + start)).take (size file table - start)

theorem textOf_textAt (file : List UInt8) (table start : ℕ) :
    TextOf (bytesFrom file table start) (.ok (textAt file table start)) :=
  textOf_decodeLossy _

end ElfFile

/-- The bytes of a section name, one for each of its ASCII characters. -/
def StubKind.nameBytes (kind : StubKind) : List UInt8 :=
  kind.sectionName.map fun c => UInt8.ofNat c.value

theorem StubKind.exists_encode_eq (kind : StubKind) :
    ∃ cs, kind.sectionName = .ofChars cs ∧ Utf8.encode cs = kind.nameBytes := by
  cases kind with
  | functionStub => exact ⟨".vitalink.fstubs".toList, rfl, by decide +kernel⟩
  | variableStub => exact ⟨".vitalink.vstubs".toList, rfl, by decide +kernel⟩

/-- A text is the name of a stub section exactly if its bytes are those of the name. -/
theorem TextOf.eq_sectionName_iff {bytes : List UInt8} {text : Text} (h : TextOf bytes (.ok text))
    (kind : StubKind) : text = kind.sectionName ↔ IsString bytes kind.nameBytes := by
  obtain ⟨cs, hname, hencode⟩ := kind.exists_encode_eq
  have hmark : .char '\uFFFD' ∉ kind.sectionName := by cases kind <;> decide
  have htext : text = kind.sectionName ↔ ∃ ds, kind.sectionName = .ofChars ds ∧
      IsString bytes (Utf8.encode ds) := by
    rw [← h.eq_iff _ hmark, Except.ok.injEq]
  rw [htext, hname, ← hencode]
  constructor
  · rintro ⟨ds, heq, hds⟩
    rwa [Text.ofChars_injective heq]
  · intro hcs
    exact ⟨cs, rfl, hcs⟩

namespace Image

open ElfFile

variable {image : Image} {path : Text} {pieceSize limit : Int} {file : List UInt8}

/-- A string is found only at an offset of a table of the file. -/
theorem Shows.exists_hasText (h : image.Shows file) {index offset : Int} {text : Text}
    (hstring : image.freshString index offset = .ok text) :
    ∃ table start : ℕ, index = table ∧ offset = start ∧ HasText file table start := by
  obtain ⟨bytes, htable, hin⟩ := bind_eq_ok_iff.mp hstring
  obtain ⟨s, hs, -⟩ := bind_eq_ok_iff.mp htable
  have hindex : 0 < index := by
    by_contra hle
    simp [sectionAt, hle] at hs
  have hoffset : 0 ≤ offset := by
    by_contra hlt
    simp [stringIn, Int.not_le.mp hlt] at hin
  obtain ⟨table, rfl⟩ := Int.eq_ofNat_of_zero_le (Int.le_of_lt hindex)
  obtain ⟨start, rfl⟩ := Int.eq_ofNat_of_zero_le hoffset
  exact ⟨table, start, rfl, rfl, (h.freshString_eq_ok_iff.mp hstring).1⟩

/-- The answer to a look-up. -/
def lookUp (image : Image) (index offset : Int) : Except ReadError Text :=
  ((stringAt index offset).run.run image).1

/-- As long as it is open, an image looks strings up in its file. -/
theorem lookUp_after (h : openAt path pieceSize limit (.file file) = .ok image)
    {calls : List Call} (hcalls : .close ∉ calls) (index offset : Int) :
    (image.after calls).lookUp index offset =
      (ofFile path pieceSize file).freshString index offset := by
  have hafter := (remembers_of_openAt h).after calls
  rw [if_neg hcalls] at hafter
  obtain ⟨later, hrun, -⟩ := hafter.stringAt index offset
  rw [lookUp, hrun]

theorem stubKind?_eq_some_iff (h : openAt path pieceSize limit (.file file) = .ok image) {i : ℕ}
    (hpos : 0 < i) {s : SectionHeader} (hs : image.sections[i]? = some s) (kind : StubKind) :
    Session.stubKind? s = some kind ↔ s.kind? = some .programBits ∧
      IsString (bytesFrom file (ElfFile.nameTable file) (nameOffset file i)) kind.nameBytes := by
  obtain ⟨hshows, hsections⟩ := sections_of_openAt h
  obtain ⟨hlt, -⟩ := hshows.entry_of_getElem? hs
  have hheader : s = ElfFile.header file i := by
    rw [hsections, List.getElem?_map, List.getElem?_range hlt] at hs
    exact (Option.some.inj hs).symm
  have hsection : IsSection file i := ⟨hpos, hlt⟩
  have hname := (textOf_textAt file (ElfFile.nameTable file)
    (nameOffset file i)).eq_sectionName_iff kind
  rw [hheader, stubKind?_header hsection, kind?_header, ← hname]
  constructor
  · intro hholds
    exact ⟨hholds.type_eq, hholds.name_eq⟩
  · rintro ⟨htype, heq⟩
    exact ⟨hsection, htype, heq⟩

/-- The index names a string table that lies in the file. -/
def HasTable (file : List UInt8) (index : Int) : Prop :=
  ∃ table : ℕ, index = table ∧ IsSection file table ∧
    type file table = SectionType.stringTable.number ∧
    offset file table + size file table ≤ file.length

/-- How a look-up fails at which nothing is found: with the error of a malformed object, unless the
number that is wrong is too long to be told. -/
inductive Missed (path : Text) (file : List UInt8) (index offset : Int) :
    Except ReadError Text → Prop
  | table {cause : LoadFault} (absent : ¬HasTable file index)
      (category_eq : cause.category = .malformedObject) :
      Missed path file index offset
        (.error (if Numeral.isShowable index then .load ⟨cause, some path⟩ else .longNumber))
  | place {cause : LoadFault} (present : HasTable file index)
      (category_eq : cause.category = .malformedObject) :
      Missed path file index offset
        (.error (if Numeral.isShowable offset then .load ⟨cause, some path⟩ else .longNumber))

theorem Missed.ends {index offset : Int} {x : Except ReadError Text}
    (h : Missed path file index offset x) (hindex : Numeral.isShowable index = true)
    (hoffset : Numeral.isShowable offset = true) : Ends path (some .malformedObject) x := by
  cases h with
  | @table cause _ hcategory =>
    rw [if_pos hindex, ← hcategory]
    exact .failed ⟨cause, some path⟩ (by simp)
  | @place cause _ hcategory =>
    rw [if_pos hoffset, ← hcategory]
    exact .failed ⟨cause, some path⟩ (by simp)

theorem missed_of_stringTable {index : Int} {e : ReadError} (offset : Int)
    (h : (ofFile path pieceSize file).stringTable index = .error e) :
    Missed path file index offset (.error e) := by
  have hshows : (ofFile path pieceSize file).Shows file := shows_ofFile
  have habsent : ¬HasTable file index := by
    rintro ⟨table, rfl, hsome, htype, hinside⟩
    rw [hshows.stringTable_eq_ok_iff.mpr ⟨hsome, htype, hinside, rfl⟩] at h
    cases h
  rcases bind_eq_error_iff.mp h with hsection | ⟨s, hs, hread⟩
  · rw [eq_of_sectionAt_eq_error hsection]
    exact @Missed.table _ _ _ _ (.sectionOutOfRange index) habsent rfl
  · obtain ⟨table, rfl, hsome, rfl⟩ := sectionAt_ofFile_iff.mp hs
    split_ifs at hread
    · have hmissed := @Missed.table path _ _ offset
        (.outsideFile (ElfFile.offset file table) (size file table) file.length) habsent rfl
      rw [if_pos (isWord_of_isSection file hsome).isShowable] at hmissed
      rw [eq_of_read_eq_error hshows.closed_eq hread]
      exact hmissed
    · rw [← Except.error.inj hread]
      exact @Missed.table _ _ _ _ (.notStringTable table) habsent rfl

theorem missed_of_stringIn {index offset : Int} {bytes : List UInt8} {e : ReadError}
    (htable : (ofFile path pieceSize file).stringTable index = .ok bytes)
    (h : (ofFile path pieceSize file).stringIn index offset bytes = .error e) :
    Missed path file index offset (.error e) := by
  obtain ⟨s, hs, -⟩ := bind_eq_ok_iff.mp htable
  obtain ⟨table, rfl, hsome, rfl⟩ := sectionAt_ofFile_iff.mp hs
  obtain ⟨-, htype, hinside, -⟩ := shows_ofFile.stringTable_eq_ok_iff.mp htable
  have hshown : LoadFault.isShowable (.stringOutsideTable offset table bytes.length) =
      Numeral.isShowable offset := by
    rw [LoadFault.isShowable, (isWord_of_isSection file hsome).isShowable, Bool.and_true]
  have hmissed := @Missed.place path _ _ offset (.stringOutsideTable offset table bytes.length)
    ⟨table, rfl, hsome, htype, hinside⟩ rfl
  rw [← hshown] at hmissed
  unfold stringIn at h
  split_ifs at h
  rw [← Except.error.inj h]
  exact hmissed

/-- Whatever is not found is missed for the first number that is wrong. -/
theorem missed_freshString {index offset : Int} {e : ReadError}
    (h : (ofFile path pieceSize file).freshString index offset = .error e) :
    Missed path file index offset (.error e) := by
  rcases bind_eq_error_iff.mp h with htable | ⟨bytes, htable, hin⟩
  · exact missed_of_stringTable offset htable
  · exact missed_of_stringIn htable hin

/-- A look-up in an open image decodes the bytes at its offset, or it fails because no string table
of the file reaches that far. -/
theorem lookUp_outcome (h : openAt path pieceSize limit (.file file) = .ok image)
    {calls : List Call} (hcalls : .close ∉ calls) :
    (∀ table start : ℕ, HasText file table start →
      TextOf (bytesFrom file table start) ((image.after calls).lookUp table start)) ∧
    (∀ index offset : Int,
      (¬∃ table start : ℕ, index = table ∧ offset = start ∧ HasText file table start) →
        Missed path file index offset ((image.after calls).lookUp index offset)) ∧
    ∀ (i : ℕ) (s : SectionHeader) (kind : StubKind), 0 < i → image.sections[i]? = some s →
      (Session.stubKind? s = some kind ↔ s.kind? = some .programBits ∧
        IsString (bytesFrom file (ElfFile.nameTable file) (nameOffset file i)) kind.nameBytes) := by
  have hshows : (ofFile path pieceSize file).Shows file := shows_ofFile
  refine ⟨?_, ?_, ?_⟩
  · intro table start htext
    rw [lookUp_after h hcalls, hshows.freshString_eq_ok_iff.mpr ⟨htext, rfl⟩]
    exact textOf_textAt file table start
  · intro index offset hnone
    rw [lookUp_after h hcalls]
    cases hanswer : (ofFile path pieceSize file).freshString index offset with
    | ok text => exact absurd (hshows.exists_hasText hanswer) hnone
    | error e => exact missed_freshString hanswer
  · intro i s kind hpos hs
    exact stubKind?_eq_some_iff h hpos hs kind

/-- A file whose name table ends with the name of a stub section and also holds a cut character. -/
def damagedNames : List UInt8 :=
  let halves (ns : List ℕ) : List UInt8 := ns.flatMap (Word.toBytes 2)
  let words (ns : List ℕ) : List UInt8 := ns.flatMap (Word.toBytes 4)
  ElfHeader.magic ++ [1, 1] ++ List.replicate 10 0 ++ halves [2, 40] ++ words [1, 0, 0, 52, 0] ++
    halves [52, 0, 0, 40, 3, 1] ++ words [0, 0, 0, 0, 0, 0, 0, 0, 0, 0] ++
    words [1, 3, 0, 0, 172, 21, 0, 0, 1, 0] ++ words [5, 1, 0, 0, 193, 0, 0, 0, 4, 0] ++
    [0, 97, 0xE2, 0x82, 0] ++ StubKind.functionStub.nameBytes

theorem lookUp_outcome_damagedNames :
    ∃ image, openAt "damaged" 0 0 (.file damagedNames) = .ok image ∧
      (image.after [.stringAt 1 5]).lookUp 1 1 = .ok (.ofChars ['a', '\uFFFD']) ∧
      Ends "damaged" (some .malformedObject) ((image.after [.stringAt 1 5]).lookUp 1 21) ∧
      ∃ s, image.sections[2]? = some s ∧ Session.stubKind? s = some .functionStub := by
  have hpath : Source.checkPath "damaged" = .ok () := by decide
  have hopens : refusal? damagedNames 0 = none := by decide +kernel
  obtain ⟨image, himage⟩ := exists_openAt hpath 0 hopens
  have hcalls : Call.close ∉ [Call.stringAt 1 5] := by decide
  obtain ⟨htext, hfails, hkind⟩ := lookUp_outcome himage hcalls
  refine ⟨image, himage, ?_, ?_, ?_⟩
  · obtain ⟨raw, cs, hraw, hcs, hanswer⟩ := (htext 1 1 (by decide +kernel)).decoded
    have hbytes : raw = [97, 0xE2, 0x82] := by
      rw [hraw.eq_takeWhile]
      decide +kernel
    have hchars : cs = ['a', '\uFFFD'] := by
      rw [Utf8.decodes_iff.mp hcs, hbytes]
      decide +kernel
    rwa [hchars] at hanswer
  · refine (hfails 1 21 ?_).ends (by decide +kernel) (by decide +kernel)
    rintro ⟨table, start, htable, hstart, hinside⟩
    obtain rfl : 1 = table := Int.ofNat_inj.mp htable
    obtain rfl : 21 = start := Int.ofNat_inj.mp hstart
    revert hinside
    decide +kernel
  · have hs : image.sections[2]? = some (ElfFile.header damagedNames 2) := by
      rw [(sections_of_openAt himage).2]
      decide +kernel
    refine ⟨_, hs, (hkind 2 _ .functionStub (by decide) hs).mpr ⟨by decide +kernel, ?_⟩⟩
    rw [isString_iff]
    decide +kernel

end Image
end ImportStubs
