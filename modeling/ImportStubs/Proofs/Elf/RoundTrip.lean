import ImportStubs.Proofs.Elf.Acceptance
import ImportStubs.Proofs.Elf.Writing

/-!
# Reading undoes writing

A file that was written is accepted: its header names the place of the section table, every entry of
the table holds the words that were written for it, and every name lies in the name table. So the
image shows the sections that were written, and their payloads are delivered in pieces of any size.
-/

namespace ImportStubs.ElfWriter

open ElfFile

section

variable (numbering : Numbering) (table count : ℕ) (rest : List UInt8)

theorem headerRefusal?_fileHeader :
    headerRefusal? (fileHeader numbering table count ++ rest) = none := by
  have hlength : 52 ≤ (fileHeader numbering table count ++ rest).length := by
    rw [List.length_append]
    cases numbering <;> exact Nat.le_add_right 52 rest.length
  unfold headerRefusal?
  rw [if_neg, if_neg, if_neg, if_neg (Nat.not_lt.mpr hlength), if_neg]
  · exact fun h => h rfl
  · exact fun h => h rfl
  · exact fun h => h rfl
  · rintro (hshort | hmagic)
    · omega
    · exact hmagic rfl

theorem tableOffset_fileHeader :
    tableOffset (fileHeader numbering table count ++ rest) = table % 0x100000000 :=
  Word.ofBytes_toBytes 4 table

theorem entryWidth_fileHeader :
    entryWidth (fileHeader numbering table count ++ rest) = 40 := rfl

theorem counts_inHeader :
    Word.at16 48 (fileHeader .inHeader table count ++ rest) = count % 0x10000 ∧
      Word.at16 50 (fileHeader .inHeader table count ++ rest) = (count - 1) % 0x10000 :=
  ⟨Word.ofBytes_toBytes 2 count, Word.ofBytes_toBytes 2 (count - 1)⟩

theorem counts_extended :
    Word.at16 48 (fileHeader .extended table count ++ rest) = 0 ∧
      Word.at16 50 (fileHeader .extended table count ++ rest) = 0xFFFF :=
  ⟨Word.ofBytes_toBytes 2 0, Word.ofBytes_toBytes 2 0xFFFF⟩

end

section

variable {numbering : Numbering} {sources : List SectionSource}

theorem writeAll_eq :
    writeAll numbering sources =
      fileHeader numbering (52 + (contents 52 sources).length) (sources.length + 1) ++
        (contents 52 sources ++ ((entries numbering sources).map words).flatten) := by
  rw [writeAll, List.append_assoc]

theorem length_fileHeader (numbering : Numbering) (table count : ℕ) :
    (fileHeader numbering table count).length = 52 := by
  cases numbering <;> rfl

theorem length_entries (numbering : Numbering) (sources : List SectionSource) :
    (entries numbering sources).length = sources.length + 1 := by
  rw [entries, List.length_cons, List.length_map, length_place]

theorem stands_contents : Stands (writeAll numbering sources) 52 (contents 52 sources) :=
  ⟨_, _, rfl, length_fileHeader ..⟩

theorem stands_table :
    Stands (writeAll numbering sources) (52 + (contents 52 sources).length)
      ((entries numbering sources).map words).flatten :=
  ⟨_, [], (List.append_nil _).symm, by rw [List.length_append, length_fileHeader]⟩

theorem length_of_mem_entries {fields : List ℕ} (h : fields ∈ entries numbering sources) :
    fields.length = 10 := by
  obtain rfl | hmem := List.mem_cons.mp h
  · cases numbering <;> rfl
  · obtain ⟨p, _, rfl⟩ := List.mem_map.mp hmem
    rfl

theorem stands_entry {i : ℕ} {fields : List ℕ}
    (hi : (entries numbering sources)[i]? = some fields) :
    Stands (writeAll numbering sources) (52 + (contents 52 sources).length + i * 40)
      (words fields) := by
  have hwidth : ∀ part ∈ (entries numbering sources).map words, part.length = 40 := by
    intro part hpart
    obtain ⟨fields, hmem, rfl⟩ := List.mem_map.mp hpart
    rw [length_words, length_of_mem_entries hmem]
  exact stands_table.flatten hwidth (by rw [List.getElem?_map, hi]; rfl)

variable (hsize : (writeAll numbering sources).length < 0x100000000)
include hsize

theorem tableOffset_writeAll :
    tableOffset (writeAll numbering sources) = 52 + (contents 52 sources).length := by
  have hstands : Stands (writeAll numbering sources) (52 + (contents 52 sources).length) _ :=
    stands_table
  have hend := hstands.end_le
  have hoffset : tableOffset (writeAll numbering sources) =
      (52 + (contents 52 sources).length) % 0x100000000 := by
    rw [writeAll_eq]
    exact tableOffset_fileHeader ..
  omega

theorem length_lt : sources.length + 1 < 0x100000000 := by
  have hlast : sources.length < (entries numbering sources).length := by
    rw [length_entries]
    omega
  have hend := (stands_entry (List.getElem?_eq_getElem hlast)).end_le
  omega

theorem field_writeAll {i : ℕ} {fields : List ℕ}
    (hi : (entries numbering sources)[i]? = some fields) {k : ℕ} (hk : k < 10) :
    field (writeAll numbering sources) i k = fields.getD k 0 % 0x100000000 := by
  have hstands := stands_entry hi
  have hplace : 4 * k + 4 ≤ (words fields).length := by
    rw [length_words, length_of_mem_entries (List.mem_of_getElem? hi)]
    omega
  have hwidth : entryWidth (writeAll numbering sources) = 40 := by
    rw [writeAll_eq]
    exact entryWidth_fileHeader ..
  rw [field, tableOffset_writeAll hsize, hwidth, hstands.at32 hplace, at32_words]

/-- Both numberings give the number of entries. -/
theorem sectionCount_writeAll (hcount : numbering = .inHeader → sources.length + 1 ≤ 0xFFFF) :
    sectionCount (writeAll numbering sources) = sources.length + 1 := by
  have htable : tableOffset (writeAll numbering sources) ≠ 0 := by
    rw [tableOffset_writeAll hsize]
    omega
  have hlength : sources.length + 1 < 0x100000000 := length_lt hsize
  rw [sectionCount, if_neg htable]
  cases numbering with
  | inHeader =>
    have hword : Word.at16 48 (writeAll .inHeader sources) = (sources.length + 1) % 0x10000 := by
      rw [writeAll_eq]
      exact (counts_inHeader ..).1
    have hle := hcount rfl
    rw [hword, Nat.mod_eq_of_lt (by omega), if_neg (by omega)]
    omega
  | extended =>
    have hword : Word.at16 48 (writeAll .extended sources) = 0 := by
      rw [writeAll_eq]
      exact (counts_extended ..).1
    have hnull : size (writeAll .extended sources) 0 = (sources.length + 1) % 0x100000000 :=
      field_writeAll hsize (i := 0) rfl (by decide)
    rw [hword, if_pos rfl, hnull, Nat.mod_eq_of_lt hlength]
    omega

/-- Both numberings give the position of the last section. -/
theorem nameTable_writeAll (hcount : numbering = .inHeader → sources.length + 1 ≤ 0xFFFF) :
    nameTable (writeAll numbering sources) = sources.length := by
  have hlength : sources.length + 1 < 0x100000000 := length_lt hsize
  rw [nameTable]
  cases numbering with
  | inHeader =>
    have hword : Word.at16 50 (writeAll .inHeader sources) = sources.length % 0x10000 := by
      rw [writeAll_eq]
      exact (counts_inHeader ..).2
    have hle := hcount rfl
    rw [hword, Nat.mod_eq_of_lt (by omega), if_neg (by omega)]
  | extended =>
    have hword : Word.at16 50 (writeAll .extended sources) = 0xFFFF := by
      rw [writeAll_eq]
      exact (counts_extended ..).2
    have hnull : link (writeAll .extended sources) 0 = sources.length % 0x100000000 :=
      field_writeAll hsize (i := 0) rfl (by decide)
    rw [hword, if_pos rfl, hnull, Nat.mod_eq_of_lt (by omega)]

theorem placed_field {i : ℕ} {p : Placed} (hp : (place 1 52 sources)[i]? = some p) {k : ℕ}
    (hk : k < 10) :
    field (writeAll numbering sources) (i + 1) k = p.fields.getD k 0 % 0x100000000 := by
  refine field_writeAll hsize ?_ hk
  rw [entries, List.getElem?_cons_succ, List.getElem?_map, hp]
  rfl

theorem tableFits_writeAll (hcount : numbering = .inHeader → sources.length + 1 ≤ 0xFFFF) :
    TableFits (writeAll numbering sources) := by
  have hwidth : entryWidth (writeAll numbering sources) = 40 := by
    rw [writeAll_eq]
    exact entryWidth_fileHeader ..
  refine ⟨Nat.le_of_eq hwidth.symm, fun i hi => ?_⟩
  rw [sectionCount_writeAll hsize hcount, ← length_entries numbering] at hi
  have hget := List.getElem?_eq_getElem hi
  have hend := (stands_entry hget).end_le
  rw [length_words, length_of_mem_entries (List.mem_of_getElem? hget)] at hend
  rw [tableOffset_writeAll hsize, hwidth]
  exact hend

end

theorem exists_placed {sources : List SectionSource} (nameStart start : ℕ) {i : ℕ}
    {source : SectionSource} (h : sources[i]? = some source) :
    ∃ p, (place nameStart start sources)[i]? = some p ∧ p.source = source := by
  rw [← map_source_place nameStart start sources, List.getElem?_map, Option.map_eq_some_iff] at h
  exact h

theorem length_withNames (sources : List SectionSource) :
    (withNames sources).length = sources.length + 1 := by
  rw [withNames, List.length_append, List.length_singleton]

theorem encodeNames_withNames (sources : List SectionSource) :
    encodeNames (withNames sources) = encodeNames (sources ++ [nameSection []]) := by
  simp only [encodeNames, withNames, List.flatMap_append, List.flatMap_singleton]
  rfl

theorem withNames_getElem?_length (sources : List SectionSource) :
    (withNames sources)[sources.length]? =
      some (nameSection (encodeNames (withNames sources))) := by
  rw [encodeNames_withNames, withNames, List.getElem?_concat_length]

section

variable {numbering : Numbering} {sources : List SectionSource}
  (hsize : (write numbering sources).length < 0x100000000)
include hsize

/-- The names stand in the last section. -/
theorem stands_names :
    type (write numbering sources) (sources.length + 1) = SectionType.stringTable.number ∧
      size (write numbering sources) (sources.length + 1) =
        (encodeNames (withNames sources)).length ∧
      Stands (write numbering sources)
        (offset (write numbering sources) (sources.length + 1))
        (encodeNames (withNames sources)) := by
  obtain ⟨p, hp, hsource⟩ := exists_placed 1 52 (withNames_getElem?_length sources)
  have hdata : p.source.data = encodeNames (withNames sources) := by rw [hsource, nameSection]
  have hstands : Stands (write numbering sources) p.start (encodeNames (withNames sources)) := by
    rw [← hdata]
    exact stands_data stands_contents hp
  have hend := hstands.end_le
  have htype : type (write numbering sources) (sources.length + 1) =
      p.source.type.toNat % 0x100000000 := placed_field hsize hp (k := 1) (by decide)
  have hoffset : offset (write numbering sources) (sources.length + 1) = p.start % 0x100000000 :=
    placed_field hsize hp (k := 4) (by decide)
  have hlength : size (write numbering sources) (sources.length + 1) =
      p.source.data.length % 0x100000000 := placed_field hsize hp (k := 5) (by decide)
  refine ⟨?_, ?_, ?_⟩
  · rw [htype, hsource]
    rfl
  · rw [hlength, hdata, Nat.mod_eq_of_lt (by omega)]
  · rwa [hoffset, Nat.mod_eq_of_lt (by omega)]

end

/-- The name of each section stands among the names. -/
theorem stands_placedName {sources : List SectionSource} {i : ℕ} {p : Placed}
    (hp : (place 1 52 sources)[i]? = some p) :
    Stands (encodeNames sources) p.nameStart (encodeName p.source) := by
  have hnames : Stands (encodeNames sources) 0 ([0] ++ sources.flatMap encodeName) :=
    ⟨[], [], (List.append_nil _).symm, rfl⟩
  exact stands_name hnames.right hp

section

variable {numbering : Numbering} {sources : List SectionSource}
  (hsize : (write numbering sources).length < 0x100000000)
include hsize

theorem nameOffset_write {i : ℕ} {p : Placed}
    (hp : (place 1 52 (withNames sources))[i]? = some p) :
    nameOffset (write numbering sources) (i + 1) = p.nameStart := by
  have hend := (stands_placedName hp).end_le
  have hnames := (stands_names hsize).2.2.end_le
  have hfield : nameOffset (write numbering sources) (i + 1) = p.nameStart % 0x100000000 :=
    placed_field hsize hp (k := 0) (by decide)
  rw [hfield, Nat.mod_eq_of_lt (by omega)]

variable (hcount : numbering = .inHeader → sources.length + 2 ≤ 0xFFFF)
include hcount

theorem sectionCount_write : sectionCount (write numbering sources) = sources.length + 2 := by
  rw [write, sectionCount_writeAll hsize (by rwa [length_withNames]), length_withNames]

theorem nameTable_write : nameTable (write numbering sources) = sources.length + 1 := by
  rw [write, nameTable_writeAll hsize (by rwa [length_withNames]), length_withNames]

theorem namesFit_write : NamesFit (write numbering sources) := by
  obtain ⟨htype, hlength, hstands⟩ := stands_names hsize
  have hcount' := sectionCount_write hsize hcount
  have htable := nameTable_write hsize hcount
  refine ⟨?_, ?_, ?_, fun i hi hpos => ?_⟩
  · rw [htable, IsSection, hcount']
    omega
  · rw [htable]
    exact htype
  · rw [htable, hlength]
    exact hstands.end_le
  · obtain ⟨i, rfl⟩ := Nat.exists_eq_add_of_le' hpos
    have hlt : i < (place 1 52 (withNames sources)).length := by
      rw [length_place, length_withNames]
      omega
    have hp := List.getElem?_eq_getElem hlt
    have hend := (stands_placedName hp).end_le
    rw [encodeName, List.length_append, List.length_singleton] at hend
    rw [nameOffset_write hsize hp, htable, hlength]
    omega

theorem refusal?_write {limit : ℕ} (hlimit : limit = 0 ∨ (write numbering sources).length ≤ limit) :
    refusal? (write numbering sources) limit = none := by
  have hheader : headerRefusal? (write numbering sources) = none := by
    rw [write, writeAll_eq]
    exact headerRefusal?_fileHeader ..
  have hfits : TableFits (write numbering sources) :=
    tableFits_writeAll hsize (by rwa [length_withNames])
  rw [refusal?, if_neg (by omega), hheader, Image.tableRefusal?_eq,
    if_pos ⟨.inr hfits, .inr (namesFit_write hsize hcount)⟩]
  rfl

/-- The name of a section is the one that was written. -/
theorem name_write {i : ℕ} {p : Placed} (hp : (place 1 52 (withNames sources))[i]? = some p) :
    name (write numbering sources) (i + 1) = Text.ofChars p.source.name := by
  obtain ⟨_, hlength, hstands⟩ := stands_names hsize
  obtain ⟨after, hafter⟩ := (stands_placedName hp).drop_eq
  have hoffset : field (write numbering sources) (i + 1) 0 = p.nameStart :=
    nameOffset_write hsize hp
  have hslice :
      ((write numbering sources).drop
          (offset (write numbering sources) (sources.length + 1) + p.nameStart)).take
        (size (write numbering sources) (sources.length + 1) - p.nameStart) =
      encodeName p.source ++ after := by
    rw [← List.drop_drop, ← List.drop_take, hlength, hstands.slice_eq, hafter]
  rw [name, hoffset, nameTable_write hsize hcount, textAt, hslice, decodeLossy_name]

end

/-- A section of an image presents a section that was written. -/
structure Presents (image : Image) (i : ℕ) (source : SectionSource) (s : SectionHeader) : Prop where
  index_eq : s.index = i
  name_eq : s.name = Text.ofChars source.name
  type_eq : s.type = source.type.toNat
  flags_eq : s.flags = source.flags.toNat
  address_eq : s.address = source.address.toNat
  link_eq : s.link = source.link.toNat
  info_eq : s.info = source.info.toNat
  entrySize_eq : s.entrySize = source.entrySize.toNat
  size_eq : s.size = source.data.length
  delivers : ∃ chunks, image.pieces s = .ok chunks ∧
    Chunk.Delivers 0 chunks (if source.type = 8 then [] else source.data) ∧
    ∀ chunk ∈ chunks, chunk.data ≠ []

theorem type_eq_noBits_iff (source : SectionSource) :
    (source.type.toNat : Int) = SectionType.noBits.number ↔ source.type = 8 := by
  rw [← UInt32.toNat_inj]
  exact Int.ofNat_inj

section

variable {numbering : Numbering} {sources : List SectionSource}
  (hsize : (write numbering sources).length < 0x100000000)
include hsize

/-- The payload of a section is the data that was written, unless its type says that it has none. -/
theorem payload_write {image : Image} (hshows : image.Shows (write numbering sources)) {i : ℕ}
    {p : Placed} (hp : (place 1 52 (withNames sources))[i]? = some p) :
    image.payload (header (write numbering sources) (i + 1)) =
      .ok (if p.source.type = 8 then [] else p.source.data) := by
  have hstands : Stands (write numbering sources) p.start p.source.data :=
    stands_data stands_contents hp
  have hend := hstands.end_le
  have htype : type (write numbering sources) (i + 1) = p.source.type.toNat % 0x100000000 :=
    placed_field hsize hp (k := 1) (by decide)
  have hoffset : offset (write numbering sources) (i + 1) = p.start % 0x100000000 :=
    placed_field hsize hp (k := 4) (by decide)
  have hlength : size (write numbering sources) (i + 1) = p.source.data.length % 0x100000000 :=
    placed_field hsize hp (k := 5) (by decide)
  rw [Nat.mod_eq_of_lt p.source.type.toNat_lt] at htype
  rw [Nat.mod_eq_of_lt (by omega)] at hoffset hlength
  have hkind : (header (write numbering sources) (i + 1)).kind? = some .noBits ↔
      p.source.type = 8 := by
    rw [SectionHeader.kind?_eq_some_iff, ← type_eq_noBits_iff, ← htype]
    rfl
  have hdata : (header (write numbering sources) (i + 1)).size = 0 ↔ p.source.data = [] := by
    rw [← List.length_eq_zero_iff, ← hlength]
    exact Int.natCast_eq_zero
  have hread : image.read (offset (write numbering sources) (i + 1))
      (size (write numbering sources) (i + 1)) = .ok p.source.data := by
    rw [hshows.read_eq_ok_iff, hoffset, hlength]
    exact ⟨hend, hstands.slice_eq.symm⟩
  unfold Image.payload
  rw [if_congr (or_congr hkind hdata) rfl rfl]
  by_cases hnone : p.source.type = 8
  · rw [if_pos (.inl hnone), if_pos hnone]
  rw [if_neg hnone]
  by_cases hnil : p.source.data = []
  · rw [if_pos (.inr hnil), hnil]
  · rw [if_neg (by simp [hnone, hnil])]
    exact hread

variable (hcount : numbering = .inHeader → sources.length + 2 ≤ 0xFFFF)
include hcount

theorem presents_write {path : Text} {pieceSize : ℕ} {image : Image}
    (h : Image.Opened path pieceSize (write numbering sources) image) {i : ℕ}
    {source : SectionSource} (hi : (withNames sources)[i]? = some source) :
    ∃ s, image.sections[i + 1]? = some s ∧ Presents image (i + 1) source s := by
  obtain ⟨p, hp, rfl⟩ := exists_placed 1 52 hi
  have hlt : i + 1 < sectionCount (write numbering sources) := by
    obtain ⟨hlt, _⟩ := List.getElem?_eq_some_iff.mp hi
    rw [length_withNames] at hlt
    rw [sectionCount_write hsize hcount]
    omega
  have hget : image.sections[i + 1]? = some (header (write numbering sources) (i + 1)) := by
    rw [h.sections_eq, List.getElem?_map, List.getElem?_range hlt]
    rfl
  have hword : ∀ (k : ℕ) (n : UInt32), k < 10 → p.fields.getD k 0 = n.toNat →
      (field (write numbering sources) (i + 1) k : Int) = n.toNat := by
    intro k n hk hn
    have hfield : field (write numbering sources) (i + 1) k = p.fields.getD k 0 % 0x100000000 :=
      placed_field hsize hp hk
    rw [hfield, hn, Nat.mod_eq_of_lt n.toNat_lt]
  have hstands : Stands (write numbering sources) p.start p.source.data :=
    stands_data stands_contents hp
  have hend := hstands.end_le
  have hlength : size (write numbering sources) (i + 1) = p.source.data.length % 0x100000000 :=
    placed_field hsize hp (k := 5) (by decide)
  have hpiece : 0 ≤ image.pieceSize := by
    rw [h.pieceSize_eq]
    exact Int.natCast_nonneg pieceSize
  refine ⟨_, hget, rfl, ?_, hword 1 _ (by decide) rfl, hword 2 _ (by decide) rfl,
    hword 3 _ (by decide) rfl, hword 6 _ (by decide) rfl, hword 7 _ (by decide) rfl,
    hword 9 _ (by decide) rfl, ?_, image.exists_pieces hpiece (payload_write hsize h.shows hp)⟩
  · rw [header, if_neg (Nat.succ_ne_zero i)]
    exact name_write hsize hcount hp
  · rw [Nat.mod_eq_of_lt (by omega)] at hlength
    exact congrArg Nat.cast hlength

end

/-- A file that was written can be opened, and it has the sections that were written, in order,
before the section with their names. -/
theorem openAt_write (numbering : Numbering) (sources : List SectionSource) {path : Text}
    (hpath : Source.checkPath path = .ok ()) (pieceSize limit : ℕ)
    (hcount : numbering = .inHeader → sources.length + 2 ≤ 0xFFFF)
    (hsize : (write numbering sources).length < 0x100000000)
    (hlimit : limit = 0 ∨ (write numbering sources).length ≤ limit) :
    ∃ image, Image.openAt path pieceSize limit (.file (write numbering sources)) = .ok image ∧
      image.sections.length = sources.length + 2 ∧
      (∀ i source, sources[i]? = some source →
        ∃ s, image.sections[i + 1]? = some s ∧ Presents image (i + 1) source s) ∧
      ∃ s, image.sections[sources.length + 1]? = some s ∧
        Presents image (sources.length + 1) (nameSection (encodeNames (withNames sources))) s := by
  obtain ⟨image, himage⟩ :=
    Image.exists_openAt hpath pieceSize (refusal?_write hsize hcount hlimit)
  have hopened := Image.opened_of_openAt himage
  refine ⟨image, himage, ?_, fun i source hi => presents_write hsize hcount hopened ?_,
    presents_write hsize hcount hopened (withNames_getElem?_length sources)⟩
  · rw [hopened.shows.length_sections, sectionCount_write hsize hcount]
  · obtain ⟨hlt, _⟩ := List.getElem?_eq_some_iff.mp hi
    rw [withNames, List.getElem?_append_left hlt, hi]

/-- Code whose name is not in ASCII, and a section of type NOBITS whose data is not read back. -/
def codeAndRoom : List SectionSource :=
  [{ name := ['.', 'ü', '€']
     name_nonnull := by decide
     type := 1
     flags := 6
     address := 0x81000000
     data := [1, 2, 3, 4, 5] },
   { name := ['.', 'b', 's', 's']
     name_nonnull := by decide
     type := 8
     link := 0xFFFFFFFF
     data := [0, 0] }]

/-- The code is read from the file with the numbers in the header, and nothing is read for the other
section from the file with the numbers in the null section. -/
theorem openAt_write_codeAndRoom :
    Source.checkPath "written" = .ok () ∧ codeAndRoom.length + 2 ≤ 0xFFFF ∧
      (write .inHeader codeAndRoom).length < 0x100000000 ∧
      (write .extended codeAndRoom).length < 0x100000000 ∧
      (∃ image, Image.openAt "written" 2 248 (.file (write .inHeader codeAndRoom)) = .ok image ∧
        image.sections.length = 4 ∧
        ∃ s, image.sections[1]? = some s ∧ s.name = Text.ofChars ['.', 'ü', '€'] ∧
          ∃ chunks, image.pieces s = .ok chunks ∧ Chunk.Delivers 0 chunks [1, 2, 3, 4, 5] ∧
            ∀ chunk ∈ chunks, chunk.data ≠ []) ∧
      ∃ image, Image.openAt "written" 0 0 (.file (write .extended codeAndRoom)) = .ok image ∧
        image.sections.length = 4 ∧
        ∃ s, image.sections[2]? = some s ∧ s.size = 2 ∧
          ∃ chunks, image.pieces s = .ok chunks ∧ Chunk.Delivers 0 chunks [] ∧
            ∀ chunk ∈ chunks, chunk.data ≠ [] := by
  have hpath : Source.checkPath "written" = .ok () := by decide
  have hcount : codeAndRoom.length + 2 ≤ 0xFFFF := by decide
  have hlimit : (write .inHeader codeAndRoom).length ≤ 248 := by decide +kernel
  have hextended : (write .extended codeAndRoom).length < 0x100000000 := by decide +kernel
  have hinHeader : (write .inHeader codeAndRoom).length < 0x100000000 := by omega
  obtain ⟨image, himage, hlength, hsections, _⟩ :=
    openAt_write .inHeader codeAndRoom hpath 2 248 (fun _ => hcount) hinHeader (.inr hlimit)
  obtain ⟨s, hs, hcode⟩ := hsections 0 _ rfl
  obtain ⟨image', himage', hlength', hsections', _⟩ :=
    openAt_write .extended codeAndRoom hpath 0 0 (by simp) hextended (.inl rfl)
  obtain ⟨s', hs', hroom⟩ := hsections' 1 _ rfl
  exact ⟨hpath, hcount, hinHeader, hextended,
    ⟨image, himage, hlength, s, hs, hcode.name_eq, hcode.delivers⟩,
    image', himage', hlength', s', hs', hroom.size_eq, hroom.delivers⟩

end ImportStubs.ElfWriter
