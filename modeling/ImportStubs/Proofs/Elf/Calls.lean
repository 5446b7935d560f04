import ImportStubs.Proofs.Elf.Acceptance

/-!
# Calls to an open image

An image is asked for strings, bytes, payloads and sections, in any order, until it is closed and
also afterwards. It answers like a reader that remembers nothing: what it remembers is what it would
read again, and a failed look-up leaves nothing behind. Once closed it knows its sections only.
-/

namespace ImportStubs.Image

open ElfFile

inductive Call where
  | stringAt (index offset : Int)
  | read (offset size : Int)
  | pieces (s : SectionHeader)
  | sectionAt (index : Int)
  | close
deriving DecidableEq, Repr

inductive Answer where
  | string (text : Text)
  | bytes (bytes : List UInt8)
  | chunks (chunks : List Chunk)
  | found (s : SectionHeader)
  | done
deriving DecidableEq, Repr

abbrev Reply := Except ReadError Answer

/-- The answer to a call, and the image after it. -/
def call (image : Image) : Call → Reply × Image
  | .stringAt index offset =>
    let (result, image) := (stringAt index offset).run.run image
    (result.map .string, image)
  | .read offset size => ((image.read offset size).map .bytes, image)
  | .pieces s => ((image.pieces s).map .chunks, image)
  | .sectionAt index => ((image.sectionAt index).map .found, image)
  | .close => (.ok .done, image.close)

/-- The same for a reader that reads a string table at every look-up. -/
def freshCall (image : Image) : Call → Reply × Image
  | .stringAt index offset => ((image.freshString index offset).map .string, image)
  | other => image.call other

/-- The answers to calls one after another. -/
def replies (step : Image → Call → Reply × Image) (image : Image) : List Call → List Reply
  | [] => []
  | c :: calls => (step image c).1 :: replies step (step image c).2 calls

/-- The image after some calls. -/
def after (image : Image) (calls : List Call) : Image :=
  calls.foldl (fun image c => (image.call c).2) image

/-- The image that a file gives before any look-up. -/
def ofFile (path : Text) (pieceSize : Int) (file : List UInt8) : Image :=
  bare path pieceSize file (ElfHeader.decode file)
    ((List.range (sectionCount file)).map (ElfFile.header file))

variable {image plain : Image} {path : Text} {pieceSize limit : Int} {file : List UInt8}

/-- The image is another one that also remembers string tables, as they are in the file. -/
structure Remembers (plain image : Image) : Prop where
  eq : image = { plain with tables := image.tables }
  sound : image.TablesSound

section

variable (h : Remembers plain image)
include h

theorem Remembers.read_eq (offset size : Int) :
    image.read offset size = plain.read offset size := by
  rw [h.eq]
  rfl

theorem Remembers.pieces_eq (s : SectionHeader) : image.pieces s = plain.pieces s := by
  rw [h.eq]
  rfl

theorem Remembers.sectionAt_eq (index : Int) : image.sectionAt index = plain.sectionAt index := by
  rw [h.eq]
  rfl

theorem Remembers.close_eq : image.close = plain.close := by
  rw [h.eq]
  rfl

end

theorem Remembers.withTables {tables : List (Int × List UInt8)}
    (h : { plain with tables }.TablesSound) : Remembers plain { plain with tables } := ⟨rfl, h⟩

theorem Remembers.close (plain : Image) : Remembers plain.close plain.close := by
  refine ⟨rfl, ?_⟩
  intro index table hlookup
  cases hlookup

/-- A look-up gives the string that would be read, and what it remembers is sound again. -/
theorem Remembers.stringAt (h : Remembers plain image) (index offset : Int) :
    ∃ after, (Image.stringAt index offset).run.run image =
      (plain.freshString index offset, after) ∧ Remembers plain after := by
  obtain ⟨heq, hsound⟩ := h
  generalize image.tables = tables at heq
  subst heq
  obtain ⟨tables', hsound', hrun⟩ := plain.answers_stringAt index offset tables hsound
  exact ⟨_, hrun, .withTables hsound'⟩

/-- A call is answered as by the reader that remembers nothing, and what is remembered stays
sound. -/
theorem Remembers.call (h : Remembers plain image) (c : Call) :
    (image.call c).1 = (plain.freshCall c).1 ∧
      Remembers (plain.freshCall c).2 (image.call c).2 := by
  cases c with
  | stringAt index offset =>
    obtain ⟨after, hrun, hafter⟩ := h.stringAt index offset
    have hcall : image.call (.stringAt index offset) =
        ((plain.freshString index offset).map .string, after) := by
      simp only [Image.call, hrun]
    rw [hcall]
    exact ⟨rfl, hafter⟩
  | read offset size =>
    simp only [Image.call, freshCall, h.read_eq, true_and]
    exact h
  | pieces s =>
    simp only [Image.call, freshCall, h.pieces_eq, true_and]
    exact h
  | sectionAt index =>
    simp only [Image.call, freshCall, h.sectionAt_eq, true_and]
    exact h
  | close =>
    refine ⟨rfl, ?_⟩
    rw [Image.call, h.close_eq]
    exact .close plain

theorem Remembers.replies_eq (h : Remembers plain image) (calls : List Call) :
    replies Image.call image calls = replies freshCall plain calls := by
  induction calls generalizing plain image with
  | nil => rfl
  | cons c calls ih =>
    obtain ⟨hanswer, hnext⟩ := h.call c
    simp only [replies, hanswer, ih hnext]

theorem freshCall_snd (image : Image) (c : Call) :
    (image.freshCall c).2 = if c = .close then image.close else image := by
  cases c <;> rfl

/-- All that calls change is that the image may be closed. -/
theorem Remembers.after (h : Remembers plain image) (calls : List Call) :
    Remembers (if .close ∈ calls then plain.close else plain) (image.after calls) := by
  induction calls generalizing plain image with
  | nil => exact h
  | cons c calls ih =>
    have hrest := ih (h.call c).2
    rw [freshCall_snd] at hrest
    cases c <;> simpa [Image.after, Image.close] using hrest

theorem remembers_of_openAt (h : openAt path pieceSize limit (.file file) = .ok image) :
    Remembers (ofFile path pieceSize file) image := by
  have hopened := opened_of_openAt h
  refine ⟨?_, tablesSound_of_openAt h⟩
  cases image
  simp only [ofFile, bare, mk.injEq, true_and]
  exact ⟨hopened.path_eq, hopened.pieceSize_eq, hopened.shows.bytes_eq, hopened.header_eq,
    hopened.sections_eq, hopened.shows.closed_eq⟩

theorem stringTable_ne_ok_of_closed (hclosed : image.closed = true) (index : Int)
    (table : List UInt8) : image.stringTable index ≠ .ok table := by
  intro htable
  obtain ⟨s, -, hread⟩ := bind_eq_ok_iff.mp htable
  split_ifs at hread
  obtain ⟨hopen, -⟩ := read_eq_ok_iff.mp hread
  simp [hclosed] at hopen

/-- Nothing is remembered after a close. -/
theorem Remembers.eq_close (h : Remembers plain.close image) : image = plain.close := by
  obtain ⟨heq, hsound⟩ := h
  have hclosed : image.closed = true := by
    rw [heq]
    rfl
  have hnone : image.tables = [] := by
    cases htables : image.tables with
    | nil => rfl
    | cons entry rest =>
      obtain ⟨index, table⟩ := entry
      have hfound : image.tables.lookup index = some table := by simp [htables]
      exact absurd (hsound index table hfound) (stringTable_ne_ok_of_closed hclosed index table)
  rw [heq, hnone]
  rfl

theorem shows_ofFile : (ofFile path pieceSize file).Shows file := by
  refine ⟨rfl, rfl, ?_⟩
  simp only [ofFile, bare, List.map_map]
  rfl

theorem sectionAt_ofFile_iff {index : Int} {s : SectionHeader} :
    (ofFile path pieceSize file).sectionAt index = .ok s ↔
      ∃ i : ℕ, index = i ∧ IsSection file i ∧ s = ElfFile.header file i := by
  constructor
  · intro hs
    have hpos : 0 < index := by
      by_contra hle
      simp [sectionAt, hle] at hs
    obtain ⟨i, rfl⟩ := Int.eq_ofNat_of_zero_le (Int.le_of_lt hpos)
    obtain ⟨-, hget⟩ := sectionAt_eq_ok_iff.mp hs
    simp only [ofFile, bare, List.getElem?_map, Option.map_eq_some_iff,
      List.getElem?_eq_some_iff, List.length_range, List.getElem_range] at hget
    obtain ⟨_, ⟨hlt, rfl⟩, rfl⟩ := hget
    exact ⟨i, rfl, ⟨Int.natCast_pos.mp hpos, hlt⟩, rfl⟩
  · rintro ⟨i, rfl, ⟨hpos, hlt⟩, rfl⟩
    apply sectionAt_eq_ok_iff.mpr
    simp [ofFile, bare, hpos, hlt]

theorem eq_of_sectionAt_eq_error {index : Int} {e : ReadError}
    (h : image.sectionAt index = .error e) : e = image.fault (.sectionOutOfRange index) := by
  unfold sectionAt at h
  split at h
  · cases h
  · exact (Except.error.inj h).symm

/-- A section of type STRTAB has the number. -/
def IsTable (file : List UInt8) (index : Int) : Prop :=
  ∃ i : ℕ, index = i ∧ IsSection file i ∧ type file i = SectionType.stringTable.number

/-- What is left of an image after a close: no string and no bytes, but the sections. -/
structure Shut (file : List UInt8) (opened image : Image) : Prop where
  no_string : ∀ index offset, IsTable file index →
    (image.call (.stringAt index offset)).1 = .error .closed
  /-- The error is that of a malformed object, unless the index is too long to be told. -/
  no_table : ∀ index offset, ¬IsTable file index →
    ∃ cause : LoadFault, cause.category = .malformedObject ∧
      (image.call (.stringAt index offset)).1 =
        .error (if Numeral.isShowable index then .load ⟨cause, some opened.path⟩ else .longNumber)
  no_bytes : ∀ offset size, (image.call (.read offset size)).1 = .error .closed
  sectionAt_eq : ∀ index,
    (image.call (.sectionAt index)).1 = (opened.call (.sectionAt index)).1
  call_close : image.call .close = (.ok .done, image)

theorem stringTable_close (index : Int) :
    plain.close.stringTable index =
      (plain.sectionAt index >>= fun s =>
        .error (if s.kind? = some .stringTable then .closed
          else plain.fault (.notStringTable index))) := by
  have hsame : plain.close.sectionAt index = plain.sectionAt index := rfl
  unfold stringTable
  rw [hsame]
  cases plain.sectionAt index with
  | error e => rfl
  | ok s =>
    simp only [bind, Except.bind]
    by_cases hkind : s.kind? = some .stringTable
    · simp only [hkind, if_true]
      rfl
    · simp only [hkind, if_false]
      rfl

/-- A look-up in a closed image still finds the section, but not its bytes. -/
theorem call_stringAt_close (index offset : Int) :
    (plain.close.call (.stringAt index offset)).1 =
      (plain.sectionAt index >>= fun s =>
        .error (if s.kind? = some .stringTable then .closed
          else plain.fault (.notStringTable index))) := by
  have hfresh := ((Remembers.close plain).call (.stringAt index offset)).1
  rw [hfresh, freshCall, freshString, stringTable_close]
  cases plain.sectionAt index <;> rfl

theorem Remembers.shut (h : Remembers (ofFile path pieceSize file) image) :
    Shut file image (ofFile path pieceSize file).close := by
  constructor
  · rintro index offset ⟨i, rfl, hsection, htype⟩
    have hkind : (ElfFile.header file i).kind? = some .stringTable :=
      SectionHeader.kind?_eq_some_iff.mpr (congrArg Nat.cast htype)
    rw [call_stringAt_close, sectionAt_ofFile_iff.mpr ⟨i, rfl, hsection, rfl⟩]
    simp [hkind, bind, Except.bind]
  · intro index offset hnot
    have hpath : image.path = path := by
      rw [h.eq]
      rfl
    rw [call_stringAt_close, hpath]
    cases hs : (ofFile path pieceSize file).sectionAt index with
    | error e =>
      refine ⟨.sectionOutOfRange index, rfl, ?_⟩
      rw [eq_of_sectionAt_eq_error hs]
      rfl
    | ok s =>
      obtain ⟨i, rfl, hsection, rfl⟩ := sectionAt_ofFile_iff.mp hs
      have hkind : (ElfFile.header file i).kind? ≠ some .stringTable := by
        intro hkind
        exact hnot ⟨i, rfl, hsection, Int.ofNat_inj.mp (SectionHeader.kind?_eq_some_iff.mp hkind)⟩
      refine ⟨.notStringTable i, rfl, ?_⟩
      simp only [bind, Except.bind, hkind, if_false]
      rfl
  · intro offset size
    rfl
  · intro index
    simp only [Image.call, h.sectionAt_eq]
    rfl
  · rfl

/-- An image answers every call like a reader of its file that remembers nothing. After a close it
has nothing left but its sections. -/
theorem replies_of_openAt (h : openAt path pieceSize limit (.file file) = .ok image)
    (calls : List Call) :
    replies call image calls = replies freshCall (ofFile path pieceSize file) calls ∧
      (.close ∈ calls → Shut file image (image.after calls)) := by
  have hremembers := remembers_of_openAt h
  constructor
  · exact hremembers.replies_eq calls
  · intro hclose
    have hafter := hremembers.after calls
    rw [if_pos hclose] at hafter
    rw [hafter.eq_close]
    exact hremembers.shut

theorem replies_numberedFile :
    ∃ image, openAt "numbered" 1 136 (.file numberedFile) = .ok image ∧
      replies call image [.stringAt 1 1, .close, .stringAt 1 1, .stringAt 0 1, .read 0 4] =
        [.ok (.string "s"), .ok .done, .error .closed,
          .error (.load ⟨.sectionOutOfRange 0, some "numbered"⟩), .error .closed] ∧
      Shut numberedFile image (image.after [.stringAt 1 1, .close]) := by
  have hpath : Source.checkPath "numbered" = .ok () := by decide
  have hopens : refusal? numberedFile 136 = none := by decide +kernel
  obtain ⟨image, himage⟩ := exists_openAt hpath 1 hopens
  refine ⟨image, himage, ?_, ?_⟩
  · rw [(replies_of_openAt himage _).1]
    decide +kernel
  · exact (replies_of_openAt himage _).2 (by simp)

end ImportStubs.Image
