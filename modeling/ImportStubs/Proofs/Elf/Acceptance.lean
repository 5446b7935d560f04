import ImportStubs.Proofs.Elf.Layout

/-!
# Which files are accepted

Opening takes the bytes of a file through a fixed order of rules, and the first rule that applies
decides. The header comes first, then the section table as a whole, then the names of its sections.
Whatever is wrong with the table or the names makes the file a malformed object.
-/

namespace ImportStubs

/-- A result, by the category of its error if it is one. The error names no other path. -/
inductive Ends {α : Type} (path : Text) : Option LoadErrorCategory → Except ReadError α → Prop
  | ok (value : α) : Ends path none (.ok value)
  | failed (error : LoadError) (path_eq : ∀ p ∈ error.path, p = path) :
      Ends path (some error.fault.category) (.error (.load error))

theorem Ends.exists_eq_ok {α : Type} {path : Text} {x : Except ReadError α}
    (h : Ends path none x) : ∃ value, x = .ok value := by
  cases h with
  | ok value => exact ⟨value, rfl⟩

/-- A result that fails with the same errors ends in the same way. -/
theorem Ends.transfer {α β : Type} {path : Text} {fault? : Option LoadErrorCategory}
    {x : Except ReadError α} {y : Except ReadError β} (h : Ends path fault? x)
    (hok : ∀ value, x = .ok value → ∃ other, y = .ok other)
    (herror : ∀ e, x = .error e → y = .error e) : Ends path fault? y := by
  cases h with
  | ok value =>
    obtain ⟨other, rfl⟩ := hok value rfl
    exact .ok other
  | failed error hpath =>
    rw [herror _ rfl]
    exact .failed error hpath

/-- Every error is that of a malformed object, and it names no other path. -/
def Malformed {α : Type} (path : Text) (x : Except ReadError α) : Prop :=
  ∀ e, x = .error e → ∃ error : LoadError, e = .load error ∧
    error.fault.category = .malformedObject ∧ ∀ p ∈ error.path, p = path

section

variable {α β : Type} {path : Text}

theorem malformed_ok (value : α) : Malformed path (.ok value) := failsOnly_ok value

theorem malformed_error {cause : LoadFault} {place : Option Text}
    (hcategory : cause.category = .malformedObject) (hplace : ∀ p ∈ place, p = path) :
    Malformed path (.error (.load ⟨cause, place⟩) : Except ReadError α) :=
  failsOnly_error ⟨_, rfl, hcategory, hplace⟩

theorem malformed_fault {image : Image} {cause : LoadFault}
    (hcategory : cause.category = .malformedObject) (hshowable : cause.isShowable = true) :
    Malformed image.path (.error (image.fault cause) : Except ReadError α) := by
  rw [Image.fault, ReadError.ofFault_of_isShowable hshowable]
  exact malformed_error hcategory (by simp)

theorem Malformed.bind {x : Except ReadError α} {f : α → Except ReadError β}
    (hx : Malformed path x) (hf : ∀ a, x = .ok a → Malformed path (f a)) :
    Malformed path (x >>= f) :=
  FailsOnly.bind hx hf

theorem Malformed.map {x : Except ReadError α} {f : α → β} (hx : Malformed path x) :
    Malformed path (x.map f) :=
  FailsOnly.map hx

theorem Malformed.mapM {f : α → Except ReadError β} {xs : List α}
    (hf : ∀ a ∈ xs, Malformed path (f a)) : Malformed path (xs.mapM f) :=
  FailsOnly.mapM hf

/-- A result that can only be malformed ends by the condition under which it is a success. -/
theorem Malformed.ends {x : Except ReadError α} (hx : Malformed path x) {p : Prop} [Decidable p]
    (hp : (∃ a, x = .ok a) ↔ p) : Ends path (if p then none else some .malformedObject) x := by
  cases x with
  | ok a =>
    rw [if_pos (hp.mp ⟨a, rfl⟩)]
    exact .ok a
  | error e =>
    obtain ⟨error, rfl, hcategory, hpath⟩ := hx e rfl
    have hnot : ¬p := by
      intro h
      obtain ⟨a, ha⟩ := hp.mpr h
      cases ha
    rw [if_neg hnot, ← hcategory]
    exact .failed error hpath

end

namespace ElfFile

variable (file : List UInt8)

def nameOffset (i : ℕ) : ℕ := field file i 0

theorem isShowable_field (i place : ℕ) : Numeral.isShowable (field file i place) = true :=
  (isWord_natCast (Word.at32_lt _ file)).isShowable

/-- There are no more sections than a word can count. -/
theorem isWord_of_isSection {i : ℕ} (h : IsSection file i) : IsWord i := by
  have hsize : size file 0 < 0x100000000 := Word.at32_lt _ file
  have hword := Word.at16_lt 48 file
  have hcount : sectionCount file ≤ 0xFFFFFFFF := by
    unfold sectionCount
    split_ifs <;> omega
  exact isWord_natCast (Nat.lt_of_lt_of_le h.2 (Nat.le_succ_of_le hcount))

theorem isShowable_nameTable : Numeral.isShowable (nameTable file) = true := by
  unfold nameTable
  split_ifs
  · exact isShowable_field file 0 6
  · exact (isWord_natCast ((Word.at16_lt 50 file).trans (by decide))).isShowable

/-- The entries of the section table are large enough, and they all lie in the file. -/
structure TableFits : Prop where
  width_ge : 40 ≤ entryWidth file
  inside : ∀ i < sectionCount file, tableOffset file + i * entryWidth file + 40 ≤ file.length

/-- The name table is a section of type STRTAB that lies in the file and holds every name. -/
structure NamesFit : Prop where
  isSection : IsSection file (nameTable file)
  type_eq : type file (nameTable file) = SectionType.stringTable.number
  inside : offset file (nameTable file) + size file (nameTable file) ≤ file.length
  start_lt : ∀ i < sectionCount file, 0 < i → nameOffset file i < size file (nameTable file)

instance {i : ℕ} : Decidable (IsSection file i) := inferInstanceAs (Decidable (_ ∧ _))

instance : Decidable (TableFits file) :=
  decidable_of_iff (40 ≤ entryWidth file ∧
      ∀ i < sectionCount file, tableOffset file + i * entryWidth file + 40 ≤ file.length)
    ⟨fun h => ⟨h.1, h.2⟩, fun h => ⟨h.width_ge, h.inside⟩⟩

instance : Decidable (NamesFit file) :=
  decidable_of_iff (IsSection file (nameTable file) ∧
      type file (nameTable file) = SectionType.stringTable.number ∧
      offset file (nameTable file) + size file (nameTable file) ≤ file.length ∧
      ∀ i < sectionCount file, 0 < i → nameOffset file i < size file (nameTable file))
    ⟨fun h => ⟨h.1, h.2.1, h.2.2.1, h.2.2.2⟩,
      fun h => ⟨h.isSection, h.type_eq, h.inside, h.start_lt⟩⟩

/-- The first rule on the header that refuses a file. -/
def headerRefusal? : Option LoadErrorCategory :=
  if file.length < 16 ∨ file.take 4 ≠ ElfHeader.magic then some .notAnObjectFile
  else if (file.getD 4 0).toNat ≠ 1 then some .wrongWordSize
  else if (file.getD 5 0).toNat ≠ 1 then some .wrongEndianness
  else if file.length < 52 then some .malformedObject
  else if Word.at16 18 file ≠ 40 then some .wrongMachine
  else none

/-- The first rule on the section table and the names that refuses a file. -/
def tableRefusal? : Option LoadErrorCategory :=
  if tableOffset file = 0 then none
  else if ¬TableFits file then some .malformedObject
  else if sectionCount file ≤ 1 then none
  else if ¬NamesFit file then some .malformedObject
  else none

/-- The first rule that refuses a file, for a limit on its size; zero is no limit. -/
def refusal? (limit : ℕ) : Option LoadErrorCategory :=
  if limit ≠ 0 ∧ limit < file.length then some .openFailed
  else headerRefusal? file <|> tableRefusal? file

end ElfFile

theorem exists_map_eq_ok_iff {ε α β : Type} {x : Except ε α} {f : α → β} :
    (∃ b, x.map f = .ok b) ↔ ∃ a, x = .ok a := by
  cases x with
  | error e => simp [Except.map]
  | ok a => simp [Except.map]

theorem exists_bind_eq_ok_iff {ε α β : Type} {x : Except ε α} {f : α → Except ε β} :
    (∃ b, (x >>= f) = .ok b) ↔ ∃ a, x = .ok a ∧ ∃ b, f a = .ok b := by
  cases x with
  | error e => simp [bind, Except.bind]
  | ok a => simp [bind, Except.bind]

theorem exists_mapM_eq_ok_iff {ε α β : Type} {f : α → Except ε β} {xs : List α} :
    (∃ ys, xs.mapM f = .ok ys) ↔ ∀ x ∈ xs, ∃ y, f x = .ok y := by
  induction xs with
  | nil => simp [pure, Except.pure]
  | cons x xs ih =>
    rw [List.mapM_cons, exists_bind_eq_ok_iff, List.forall_mem_cons, ← ih]
    constructor
    · rintro ⟨y, hy, hrest⟩
      obtain ⟨ys, hys, _⟩ := exists_bind_eq_ok_iff.mp hrest
      exact ⟨⟨y, hy⟩, ys, hys⟩
    · rintro ⟨⟨y, hy⟩, ys, hys⟩
      exact ⟨y, hy, exists_bind_eq_ok_iff.mpr ⟨ys, hys, _, rfl⟩⟩

namespace Image

open ElfFile

variable {image : Image}

section

variable (hopen : image.closed = false)
include hopen

theorem malformed_read (start count : Int) : Malformed image.path (image.read start count) := by
  unfold read
  rw [hopen, if_neg Bool.false_ne_true]
  split_ifs
  · exact malformed_fault rfl rfl
  · exact malformed_ok _

theorem malformed_readSection (i : ℕ) : Malformed image.path (image.readSection i) :=
  (malformed_read hopen _ _).map

theorem malformed_readSections (i count : ℕ) :
    Malformed image.path (image.readSections i count) := by
  induction count generalizing i with
  | zero => exact malformed_ok []
  | succ count ih =>
    exact (malformed_readSection hopen i).bind fun s _ => (ih (i + 1)).bind fun rest _ =>
      malformed_ok (s :: rest)

theorem malformed_sectionTable : Malformed image.path image.sectionTable := by
  unfold sectionTable
  by_cases hempty : image.header.sectionOffset = 0
  · rw [if_pos hempty]
    exact malformed_ok []
  rw [if_neg hempty]
  by_cases hsmall : image.header.sectionEntrySize < SectionHeader.byteSize
  · rw [if_pos hsmall]
    exact malformed_fault rfl rfl
  rw [if_neg hsmall]
  exact (malformed_readSection hopen 0).bind fun null _ =>
    (malformed_readSections hopen 1 _).bind fun rest _ => malformed_ok (null :: rest)

theorem malformed_stringTable {index : Int} (hindex : Numeral.isShowable index = true) :
    Malformed image.path (image.stringTable index) := by
  have hsection : Malformed image.path (image.sectionAt index) := by
    unfold sectionAt
    split
    · exact malformed_ok _
    · exact malformed_fault rfl hindex
  refine hsection.bind fun s _ => ?_
  split_ifs
  · exact malformed_read hopen _ _
  · exact malformed_fault rfl hindex

theorem malformed_freshString {index start : Int} (hindex : Numeral.isShowable index = true)
    (hstart : Numeral.isShowable start = true) :
    Malformed image.path (image.freshString index start) := by
  refine (malformed_stringTable hopen hindex).bind fun table _ => ?_
  unfold stringIn
  split_ifs
  · refine malformed_fault rfl ?_
    rw [LoadFault.isShowable, hstart, hindex]
    rfl
  · exact malformed_ok _

theorem malformed_nameOf {table : Int} {s : SectionHeader}
    (htable : Numeral.isShowable table = true) (hname : Numeral.isShowable s.nameOffset = true) :
    Malformed image.path (image.nameOf table s) :=
  (malformed_freshString hopen htable hname).bind fun _ _ => malformed_ok _

end

section

variable (hopen : image.closed = false) (hheader : image.header = ElfHeader.decode image.bytes)
include hopen hheader

theorem exists_readSection_iff {i : ℕ} :
    (∃ s, image.readSection i = .ok s) ↔
      tableOffset image.bytes + i * entryWidth image.bytes + 40 ≤ image.bytes.length := by
  unfold readSection
  rw [exists_map_eq_ok_iff, hheader, sectionOffset_decode, sectionEntrySize_decode]
  simp only [read_eq_ok_iff, hopen, fileSize, SectionHeader.byteSize, true_and]
  constructor
  · rintro ⟨_, _, _, hinside, _⟩
    exact_mod_cast hinside
  · intro hinside
    exact ⟨_, Int.natCast_nonneg _, by decide, by exact_mod_cast hinside, rfl⟩

theorem exists_readSections_iff {index count : ℕ} :
    (∃ sections, image.readSections index count = .ok sections) ↔
      ∀ i, index ≤ i → i < index + count →
        tableOffset image.bytes + i * entryWidth image.bytes + 40 ≤ image.bytes.length := by
  induction count generalizing index with
  | zero =>
    refine iff_of_true ⟨[], rfl⟩ fun i hle hlt => ?_
    omega
  | succ count ih =>
    have hcons : (∃ sections, image.readSections index (count + 1) = .ok sections) ↔
        (∃ s, image.readSection index = .ok s) ∧
          ∃ rest, image.readSections (index + 1) count = .ok rest := by
      rw [readSections, exists_bind_eq_ok_iff]
      simp only [exists_bind_eq_ok_iff, pure, Except.pure, Except.ok.injEq, exists_eq', and_true]
      exact exists_and_right
    rw [hcons, ih, exists_readSection_iff hopen hheader]
    constructor
    · rintro ⟨hfirst, hrest⟩ i hle hlt
      obtain rfl | hlater := Nat.eq_or_lt_of_le hle
      · exact hfirst
      · exact hrest i hlater (by omega)
    · intro hall
      exact ⟨hall index (Nat.le_refl index) (by omega),
        fun i hle hlt => hall i (by omega) (by omega)⟩

theorem exists_sectionTable_iff :
    (∃ sections, image.sectionTable = .ok sections) ↔
      tableOffset image.bytes = 0 ∨ TableFits image.bytes := by
  rw [sectionTable_eq hheader]
  by_cases hzero : tableOffset image.bytes = 0
  · have hnone : sectionCount image.bytes = 0 := if_pos hzero
    rw [if_neg fun h => h.1 hzero, hnone]
    exact iff_of_true ⟨[], rfl⟩ (.inl hzero)
  rw [or_iff_right hzero]
  by_cases hsmall : entryWidth image.bytes < SectionHeader.byteSize
  · rw [if_pos ⟨hzero, hsmall⟩]
    exact iff_of_false (by simp) fun hfits => Nat.not_lt.mpr hfits.width_ge hsmall
  rw [if_neg fun h => hsmall h.2, exists_readSections_iff hopen hheader, Nat.zero_add]
  constructor
  · exact fun hinside => ⟨Nat.not_lt.mp hsmall, fun i hi => hinside i (Nat.zero_le i) hi⟩
  · exact fun hfits i _ hi => hfits.inside i hi

end

theorem exists_nameOf_iff {file : List UInt8} (h : image.Shows file) {table i : ℕ} :
    (∃ s, image.nameOf table (entry file i) = .ok s) ↔ HasText file table (nameOffset file i) := by
  unfold nameOf
  rw [exists_bind_eq_ok_iff]
  constructor
  · rintro ⟨name, hname, _⟩
    exact (h.freshString_eq_ok_iff.mp hname).1
  · intro htext
    exact ⟨_, h.freshString_eq_ok_iff.mpr ⟨htext, rfl⟩, _, rfl⟩

section

variable {file : List UInt8} (hshows : image.Shows file) (hsound : image.TablesSound)
  (hheader : image.header = ElfHeader.decode file)
  (hsections : image.sections = (List.range (sectionCount file)).map (entry file))
include hshows hsound hheader hsections

/-- All numbers that naming uses are words of the file. -/
theorem malformed_named : Malformed image.path image.named := by
  obtain ⟨tables, -, hname⟩ := exists_named_eq hsound
  rw [hname]
  refine (Malformed.mapM fun s hs => malformed_nameOf hshows.closed_eq ?_ ?_).map
  · rw [hshows.nameTable_eq hheader (List.ne_nil_of_mem (List.mem_of_mem_tail hs))]
    exact isShowable_nameTable file
  · have hmem := List.mem_of_mem_tail hs
    rw [hsections] at hmem
    obtain ⟨i, -, rfl⟩ := List.mem_map.mp hmem
    exact isShowable_field file i 0

theorem exists_named_iff :
    (∃ named, image.named = .ok named) ↔ sectionCount file ≤ 1 ∨ NamesFit file := by
  have htail : image.sections.tail = (List.range' 1 (sectionCount file - 1)).map (entry file) := by
    rw [hsections, ← List.map_tail, List.range_eq_range', List.tail_range']
  have hall : (∃ named, image.named = .ok named) ↔
      ∀ i, 1 ≤ i → i < sectionCount file →
        ∃ s, image.nameOf image.nameTable (entry file i) = .ok s := by
    obtain ⟨tables, -, hname⟩ := exists_named_eq hsound
    rw [hname, exists_map_eq_ok_iff, exists_mapM_eq_ok_iff, htail, List.forall_mem_map]
    simp only [List.mem_range'_1, and_imp]
    exact forall_congr' fun i => imp_congr_right fun hle => imp_congr_left (by omega)
  rw [hall]
  by_cases hsmall : sectionCount file ≤ 1
  · exact iff_of_true (fun i hle hlt => by omega) (.inl hsmall)
  have hne : image.sections ≠ [] := by
    intro hnil
    have hlength := hshows.length_sections
    rw [hnil, List.length_nil] at hlength
    omega
  rw [or_iff_right hsmall, hshows.nameTable_eq hheader hne]
  simp only [exists_nameOf_iff hshows]
  constructor
  · intro htexts
    have hfirst := htexts 1 (Nat.le_refl 1) (by omega)
    exact ⟨hfirst.isSection, hfirst.type_eq, hfirst.inside,
      fun i hlt hpos => (htexts i hpos hlt).start_lt⟩
  · intro hfits i hle hlt
    exact ⟨hfits.isSection, hfits.type_eq, hfits.start_lt i hlt hle, hfits.inside⟩

end

theorem shows_bare (path : Text) (pieceSize : Int) {file : List UInt8}
    {sections : List SectionHeader}
    (hsections : sections = (List.range (sectionCount file)).map (entry file)) :
    (bare path pieceSize file (ElfHeader.decode file) sections).Shows file := by
  refine ⟨rfl, rfl, ?_⟩
  rw [bare, hsections, List.map_map]
  rfl

theorem checkHeader_eq (file : List UInt8) :
    checkHeader file =
      if file.length < 16 ∨ file.take 4 ≠ ElfHeader.magic then .error .notAnObject
      else if (file.getD 4 0).toNat ≠ 1 then .error (.wrongWordSize (file.getD 4 0).toNat)
      else if (file.getD 5 0).toNat ≠ 1 then .error (.wrongEndianness (file.getD 5 0).toNat)
      else if file.length < 52 then .error .truncatedHeader
      else if Word.at16 18 file ≠ 40 then .error (.wrongMachine (Word.at16 18 file))
      else .ok (ElfHeader.decode file) := rfl

/-- The header is refused by the rules on it, and else it is the one at the start of the file. -/
theorem checkHeader_refusal (file : List UInt8) :
    match headerRefusal? file with
    | some category => ∃ cause, checkHeader file = .error cause ∧ cause.category = category
    | none => checkHeader file = .ok (ElfHeader.decode file) := by
  rw [checkHeader_eq, headerRefusal?]
  by_cases hident : file.length < 16 ∨ file.take 4 ≠ ElfHeader.magic
  · rw [if_pos hident, if_pos hident]
    exact ⟨_, rfl, rfl⟩
  rw [if_neg hident, if_neg hident]
  by_cases hclass : (file.getD 4 0).toNat ≠ 1
  · rw [if_pos hclass, if_pos hclass]
    exact ⟨_, rfl, rfl⟩
  rw [if_neg hclass, if_neg hclass]
  by_cases hencoding : (file.getD 5 0).toNat ≠ 1
  · rw [if_pos hencoding, if_pos hencoding]
    exact ⟨_, rfl, rfl⟩
  rw [if_neg hencoding, if_neg hencoding]
  by_cases hshort : file.length < 52
  · rw [if_pos hshort, if_pos hshort]
    exact ⟨_, rfl, rfl⟩
  rw [if_neg hshort, if_neg hshort]
  by_cases hmachine : Word.at16 18 file ≠ 40
  · rw [if_pos hmachine, if_pos hmachine]
    exact ⟨_, rfl, rfl⟩
  rw [if_neg hmachine, if_neg hmachine]

theorem tableRefusal?_eq (file : List UInt8) :
    tableRefusal? file =
      if (tableOffset file = 0 ∨ TableFits file) ∧ (sectionCount file ≤ 1 ∨ NamesFit file) then none
      else some .malformedObject := by
  unfold tableRefusal?
  by_cases hempty : tableOffset file = 0
  · have hcount : sectionCount file = 0 := if_pos hempty
    simp [hempty, hcount]
  · by_cases hsmall : sectionCount file ≤ 1 <;> by_cases hfits : TableFits file <;>
      simp [hempty, hsmall, hfits]

/-- The section table and the names are refused by the rules on them. -/
theorem ends_sections (path : Text) (pieceSize : Int) (file : List UInt8) :
    Ends path (tableRefusal? file)
      ((bare path pieceSize file (ElfHeader.decode file) []).sectionTable >>= fun sections =>
        named (bare path pieceSize file (ElfHeader.decode file) sections)) := by
  let unnamed := bare path pieceSize file (ElfHeader.decode file)
  have hsound : ∀ sections, (unnamed sections).TablesSound :=
    tablesSound_bare path pieceSize file (ElfHeader.decode file)
  have htable : Malformed path (unnamed []).sectionTable :=
    @malformed_sectionTable (unnamed []) rfl
  have hentries : ∀ sections, (unnamed []).sectionTable = .ok sections →
      sections = (List.range (sectionCount file)).map (entry file) := fun sections =>
    @sectionTable_eq_ok (unnamed []) sections rfl
  have hnames : ∀ sections, (unnamed []).sectionTable = .ok sections →
      Malformed path (unnamed sections).named := fun sections hsections =>
    malformed_named (shows_bare path pieceSize (hentries sections hsections)) (hsound sections) rfl
      (hentries sections hsections)
  have htableRead : (∃ sections, (unnamed []).sectionTable = .ok sections) ↔
      tableOffset file = 0 ∨ TableFits file :=
    @exists_sectionTable_iff (unnamed []) rfl rfl
  have hnamesRead : ∀ sections, (unnamed []).sectionTable = .ok sections →
      ((∃ named, (unnamed sections).named = .ok named) ↔
        sectionCount file ≤ 1 ∨ NamesFit file) := fun sections hsections =>
    exists_named_iff (shows_bare path pieceSize (hentries sections hsections)) (hsound sections) rfl
      (hentries sections hsections)
  rw [tableRefusal?_eq]
  refine (htable.bind hnames).ends ?_
  rw [exists_bind_eq_ok_iff, ← htableRead]
  constructor
  · rintro ⟨sections, hsections, hall⟩
    exact ⟨⟨sections, hsections⟩, (hnamesRead sections hsections).mp hall⟩
  · rintro ⟨⟨sections, hsections⟩, hfit⟩
    exact ⟨sections, hsections, (hnamesRead sections hsections).mpr hfit⟩

theorem ends_openAt {path : Text} (hpath : Source.checkPath path = .ok ()) (pieceSize : Int)
    (limit : ℕ) (file : List UInt8) :
    Ends path (refusal? file limit) (openAt path pieceSize limit (.file file)) := by
  have hlimit : ((limit : Int) ≠ 0 ∧ (limit : Int) < file.length) ↔
      limit ≠ 0 ∧ limit < file.length := by omega
  rw [openAt_eq, hpath]
  dsimp only [Source.read]
  rw [if_congr hlimit rfl rfl, refusal?]
  by_cases hlarge : limit ≠ 0 ∧ limit < file.length
  · have hshowable : LoadFault.isShowable (.tooLarge file.length limit) = true := by
      simp [LoadFault.isShowable]
    rw [if_pos hlarge, if_pos hlarge, ReadError.ofFault_of_isShowable hshowable]
    exact .failed ⟨.tooLarge file.length limit, some path⟩ (by simp)
  rw [if_neg hlarge, if_neg hlarge]
  have hheader := checkHeader_refusal file
  cases hrefusal : headerRefusal? file with
  | some category =>
    rw [hrefusal] at hheader
    obtain ⟨cause, hcause, rfl⟩ := hheader
    rw [hcause]
    exact .failed ⟨cause, some path⟩ (by simp)
  | none =>
    rw [hrefusal] at hheader
    rw [hheader]
    exact ends_sections path pieceSize file

/-- A file that no rule refuses is opened. -/
theorem exists_openAt {path : Text} (hpath : Source.checkPath path = .ok ()) (pieceSize : Int)
    {limit : ℕ} {file : List UInt8} (h : refusal? file limit = none) :
    ∃ image, openAt path pieceSize limit (.file file) = .ok image := by
  have hends := ends_openAt hpath pieceSize limit file
  rw [h] at hends
  exact hends.exists_eq_ok

/-- The image of a file: its header and its sections, each with the ten words of its entry and the
name that stands in the name table. -/
structure Opened (path : Text) (pieceSize : Int) (file : List UInt8) (image : Image) : Prop where
  path_eq : image.path = path
  pieceSize_eq : image.pieceSize = pieceSize
  header_eq : image.header = ElfHeader.decode file
  shows : image.Shows file
  sections_eq : image.sections = (List.range (sectionCount file)).map (ElfFile.header file)

theorem opened_of_openAt {path : Text} {pieceSize limit : Int} {file : List UInt8}
    (h : openAt path pieceSize limit (.file file) = .ok image) :
    Opened path pieceSize file image := by
  obtain ⟨bytes, header, sections, hfile, hheader, _, hnames⟩ := openAt_eq_ok h
  obtain rfl := Source.file.inj hfile
  obtain rfl := checkHeader_eq_ok hheader
  obtain ⟨hshows, hsections⟩ := sections_of_openAt h
  obtain ⟨_, _, rfl, _⟩ := named_eq_ok
    (tablesSound_bare path pieceSize file (ElfHeader.decode file) sections) hnames
  exact ⟨rfl, rfl, rfl, hshows, hsections⟩

/-- A file is refused by the first rule that applies, and opened if none does. -/
theorem openAt_refusal {path : Text} (hpath : Source.checkPath path = .ok ()) (pieceSize : Int)
    (limit : ℕ) (file : List UInt8) :
    Ends path (refusal? file limit) (openAt path pieceSize limit (.file file)) ∧
      ∀ image, openAt path pieceSize limit (.file file) = .ok image →
        Opened path pieceSize file image :=
  ⟨ends_openAt hpath pieceSize limit file, fun _ => opened_of_openAt⟩

/-- A file of two sections, whose null section holds their number and the position of the name
table. -/
def numberedFile : List UInt8 :=
  let halves (ns : List ℕ) : List UInt8 := ns.flatMap (Word.toBytes 2)
  let words (ns : List ℕ) : List UInt8 := ns.flatMap (Word.toBytes 4)
  ElfHeader.magic ++ [1, 1] ++ List.replicate 10 0 ++ halves [2, 40] ++ words [1, 0, 0, 52, 0] ++
    halves [52, 0, 0, 40, 0, 0xFFFF] ++ words [0, 0, 0, 0, 0, 2, 1, 0, 0, 0] ++
    words [1, 3, 0, 0, 132, 4, 0, 0, 1, 0] ++ [0, 115, 0, 0]

/-- It is opened under a limit that it just meets, and refused if its last byte is missing. -/
theorem openAt_refusal_numberedFile :
    Source.checkPath "numbered" = .ok () ∧ refusal? numberedFile 136 = none ∧
      refusal? (numberedFile.take 135) 136 = some .malformedObject ∧
      (Ends "numbered" none (openAt "numbered" 1 136 (.file numberedFile)) ∧
        ∀ image, openAt "numbered" 1 136 (.file numberedFile) = .ok image →
          Opened "numbered" 1 numberedFile image) ∧
      Ends "numbered" (some .malformedObject)
        (openAt "numbered" 1 136 (.file (numberedFile.take 135))) := by
  have hpath : Source.checkPath "numbered" = .ok () := by decide
  have hwhole : refusal? numberedFile 136 = none := by decide +kernel
  have hcut : refusal? (numberedFile.take 135) 136 = some .malformedObject := by decide +kernel
  have hopened := openAt_refusal hpath 1 136 numberedFile
  have hrefused := openAt_refusal hpath 1 136 (numberedFile.take 135)
  rw [hwhole] at hopened
  rw [hcut] at hrefused
  exact ⟨hpath, hwhole, hcut, hopened, hrefused.1⟩

end Image
end ImportStubs
