import ImportStubs.Proofs.Except
import ImportStubs.Proofs.Record.Stitching
import ImportStubs.Stub.Table
import ImportStubs.Symbol.Table
import Mathlib.Data.List.Forall2
import Mathlib.Tactic.Common

/-!
# What an image answers

The answers of an image depend on its file and its section table only. The piece size decides where
payloads are cut, which no scan shows, and the remembered string tables are the ones that would be
read again.
-/

namespace ImportStubs

theorem Chunk.split_nil (size base : Nat) : Chunk.split size base [] = [] := by
  rw [Chunk.split, dif_neg (by simp)]

/-- Pieces of a positive size deliver the bytes that were split. -/
theorem Chunk.delivers_split {size : Nat} (hpos : 0 < size) (base : Nat) (bytes : List UInt8) :
    Chunk.Delivers base (Chunk.split size base bytes) bytes := by
  fun_induction Chunk.split size base bytes with
  | case1 base bytes h ih =>
    by_cases hlast : bytes.length ≤ size
    · rw [List.drop_eq_nil_of_le hlast, Chunk.split_nil, List.take_of_length_le hlast]
      have hend : Chunk.Delivers (base + bytes.length) [] [] := .nil
      simpa using Chunk.Delivers.cons hend
    · have hlen : (bytes.take size).length = size := by
        rw [List.length_take]
        omega
      have hrest : Chunk.Delivers (base + (bytes.take size).length)
          (Chunk.split size (base + size) (bytes.drop size)) (bytes.drop size) := by
        rwa [hlen]
      simpa using Chunk.Delivers.cons hrest
  | case2 base bytes h =>
    have hnil : bytes = [] := by
      by_contra hne
      exact h ⟨hpos, hne⟩
    rw [hnil]
    exact .nil

theorem Chunk.data_ne_nil_of_mem_split {size base : Nat} {bytes : List UInt8} :
    ∀ chunk ∈ Chunk.split size base bytes, chunk.data ≠ [] := by
  fun_induction Chunk.split size base bytes with
  | case1 base bytes h ih =>
    refine List.forall_mem_cons.mpr ⟨?_, ih⟩
    simpa [Nat.ne_of_gt h.1] using h.2
  | case2 base bytes h => simp

theorem Symbol.le_entrySize_of_count {s : SectionHeader} {n : Int} (h : Symbol.count s = .ok n) :
    (Symbol.entrySize : Int) ≤ s.entrySize := by
  unfold Symbol.count at h
  split_ifs at h with hsmall
  exact Int.not_lt.mp hsmall

theorem Symbol.eq_of_count_eq_error {s : SectionHeader} {e : ReadError}
    (h : Symbol.count s = .error e) : e = .ofFault none (.smallSymbolEntry s.entrySize) := by
  unfold Symbol.count at h
  split_ifs at h
  exact (Except.error.inj h).symm

namespace Image

theorem read_eq_ok_iff {image : Image} {offset size : Int} {bytes : List UInt8} :
    image.read offset size = .ok bytes ↔
      image.closed = false ∧ 0 ≤ offset ∧ 0 ≤ size ∧ offset + size ≤ image.fileSize ∧
        bytes = (image.bytes.drop offset.toNat).take size.toNat := by
  unfold read
  by_cases hclosed : image.closed
  · simp [hclosed]
  by_cases hrange : offset < 0 ∨ size < 0 ∨ image.fileSize < offset + size
  · simp only [hclosed, hrange, Bool.false_eq_true, if_true, if_false, reduceCtorEq, false_iff]
    omega
  · simp only [hclosed, hrange, Bool.false_eq_true, if_false, Except.ok.injEq, true_and]
    constructor
    · intro h
      exact ⟨by omega, by omega, by omega, h.symm⟩
    · intro h
      exact h.2.2.2.symm

theorem eq_of_read_eq_error {image : Image} (hopen : image.closed = false) {offset size : Int}
    {e : ReadError} (h : image.read offset size = .error e) :
    e = image.fault (.outsideFile offset size image.fileSize) := by
  unfold read at h
  rw [hopen, if_neg Bool.false_ne_true] at h
  split_ifs at h
  exact (Except.error.inj h).symm

theorem length_of_read {image : Image} {offset size : Int} {bytes : List UInt8}
    (h : image.read offset size = .ok bytes) : (bytes.length : Int) = size := by
  obtain ⟨_, hoffset, hsize, hrange, rfl⟩ := read_eq_ok_iff.mp h
  unfold fileSize at hrange
  rw [List.length_take, List.length_drop]
  omega

/-- The payload of a section as one byte string; a section of type NOBITS has none in the file. -/
def payload (image : Image) (s : SectionHeader) : Except ReadError (List UInt8) :=
  if s.kind? = some .noBits ∨ s.size = 0 then .ok [] else image.read s.offset s.size

/-- The scan of a payload that comes in one piece. -/
def wholeScan (size : Nat) (s : SectionHeader) (bytes : List UInt8) : Record.Scan where
  records := (Record.cut size 0 bytes).1
  fault := if bytes.length < s.size then some (.shortData bytes.length s.size) else none

/-- The records of a section and why there are no more, read in one piece. -/
def scanOf (image : Image) (size : Nat) (s : SectionHeader) : Except ReadError Record.Scan :=
  (image.payload s).map (wholeScan size s)

theorem length_of_payload {image : Image} {s : SectionHeader} {bytes : List UInt8}
    (h : image.payload s = .ok bytes) : bytes = [] ∨ (bytes.length : Int) = s.size := by
  unfold payload at h
  split_ifs at h with hempty
  · exact .inl (Except.ok.inj h).symm
  · exact .inr (length_of_read h)

/-- The step by which a payload is cut. -/
def cutStep (image : Image) (bytes : List UInt8) : Int :=
  if image.pieceSize = 0 then bytes.length else image.pieceSize

theorem cutStep_pos {image : Image} (hpiece : 0 ≤ image.pieceSize) {bytes : List UInt8}
    (h : bytes ≠ []) : 0 < image.cutStep bytes := by
  have hlength := List.length_pos_iff.mpr h
  unfold cutStep
  split_ifs with hzero <;> omega

theorem pieces_eq (image : Image) (s : SectionHeader) :
    image.pieces s = (image.payload s).map fun bytes =>
      Chunk.split (image.cutStep bytes).toNat 0 bytes := by
  unfold pieces payload cutStep
  by_cases hempty : s.kind? = some .noBits ∨ s.size = 0
  · simp only [if_pos hempty, Except.map, Chunk.split_nil]
  · simp only [if_neg hempty]
    congr 1
    funext bytes
    split_ifs <;> rfl

/-- A payload that can be read is delivered in pieces, and none of them is empty. -/
theorem exists_pieces {image : Image} (hpiece : 0 ≤ image.pieceSize) {s : SectionHeader}
    {bytes : List UInt8} (h : image.payload s = .ok bytes) :
    ∃ chunks, image.pieces s = .ok chunks ∧ Chunk.Delivers 0 chunks bytes ∧
      ∀ chunk ∈ chunks, chunk.data ≠ [] := by
  rw [pieces_eq, h]
  refine ⟨_, rfl, ?_, Chunk.data_ne_nil_of_mem_split⟩
  by_cases hnil : bytes = []
  · simp only [hnil, Chunk.split_nil]
    exact .nil
  · have hstep := cutStep_pos hpiece hnil
    exact Chunk.delivers_split (by omega) 0 bytes

/-- Whatever the piece size, the pieces of a section are scanned like its whole payload. -/
theorem scan_pieces {size : Nat} (hpos : 0 < size) {image : Image} (hpiece : 0 ≤ image.pieceSize)
    (s : SectionHeader) : (image.pieces s).map (Record.scan size s.size) = image.scanOf size s := by
  unfold scanOf
  cases hpayload : image.payload s with
  | error e =>
    rw [pieces_eq, hpayload]
    rfl
  | ok bytes =>
    obtain rfl | hlen := length_of_payload hpayload
    · rw [pieces_eq, hpayload]
      simp only [Except.map, Chunk.split_nil, wholeScan, Except.ok.injEq]
      rw [Record.cut_of_lt (by simpa using hpos)]
      rfl
    · obtain ⟨chunks, hpieces, hdelivers, -⟩ := exists_pieces hpiece hpayload
      rw [hpieces]
      simp only [Except.map, Except.ok.injEq]
      rw [← hlen, Record.scan_of_delivers hpos hdelivers, wholeScan, if_neg (by omega)]

/-- The string at an offset of a table that is read afresh. -/
def freshString (image : Image) (index offset : Int) : Except ReadError Text :=
  image.stringTable index >>= image.stringIn index offset

/-- Every remembered table is the one that would be read. -/
def TablesSound (image : Image) : Prop :=
  ∀ index table, image.tables.lookup index = some table → image.stringTable index = .ok table

/-- An image that answers as its file does. -/
structure Readable (image : Image) : Prop where
  sound : image.TablesSound
  pieceSize_nonneg : 0 ≤ image.pieceSize

/-- From sound tables the action gives the answer; it may remember more tables, and they are sound
again. -/
def Answers {α : Type} (image : Image) (action : Action α) (answer : Except ReadError α) : Prop :=
  ∀ tables, { image with tables }.TablesSound →
    ∃ tables', { image with tables := tables' }.TablesSound ∧
    action.run.run { image with tables } = (answer, { image with tables := tables' })

theorem run_bind {α β : Type} (action : Action α) (next : α → Action β) (image : Image) :
    (action >>= next).run.run image =
      match action.run.run image with
      | (.ok value, image) => (next value).run.run image
      | (.error e, image) => (.error e, image) := by
  simp only [ExceptT.run_bind, StateT.run_bind]
  cases action.run.run image with
  | mk result image => cases result <;> rfl

theorem answers_pure {α : Type} (image : Image) (a : α) : image.Answers (pure a) (.ok a) := by
  intro tables hsound
  exact ⟨tables, hsound, rfl⟩

theorem Answers.bind {α β : Type} {image : Image} {action : Action α} {next : α → Action β}
    {answer : Except ReadError α} {answers : α → Except ReadError β}
    (haction : image.Answers action answer) (hnext : ∀ a, image.Answers (next a) (answers a)) :
    image.Answers (action >>= next) (answer >>= answers) := by
  intro tables hsound
  obtain ⟨tables', hsound', hrun⟩ := haction tables hsound
  rw [run_bind, hrun]
  cases answer with
  | error e => exact ⟨tables', hsound', rfl⟩
  | ok a => exact hnext a tables' hsound'

theorem answers_stringAt (image : Image) (index offset : Int) :
    image.Answers (stringAt index offset) (image.freshString index offset) := by
  intro tables hsound
  have htable : { image with tables }.stringTable index = image.stringTable index := rfl
  have hrun : (stringAt index offset).run.run { image with tables } =
      stringAt index offset { image with tables } := rfl
  rw [hrun, stringAt, freshString]
  cases hlookup : tables.lookup index with
  | some table =>
    have hfresh := hsound index table hlookup
    rw [htable] at hfresh
    exact ⟨tables, hsound, by simp [hfresh, bind, Except.bind, stringIn, fault]⟩
  | none =>
    cases hfresh : image.stringTable index with
    | error e => exact ⟨tables, hsound, by simp [htable, hfresh, bind, Except.bind]⟩
    | ok table =>
      refine ⟨(index, table) :: tables, ?_,
        by simp [htable, hfresh, bind, Except.bind, stringIn, fault]⟩
      intro other found hfound
      rw [List.lookup_cons] at hfound
      by_cases hother : other = index
      · subst hother
        obtain rfl : table = found := by simpa using hfound
        exact hfresh
      · rw [beq_false_of_ne hother] at hfound
        exact hsound other found hfound

/-- The stubs of a section, read in one piece. -/
def stubsIn (image : Image) (kind : StubKind) (s : SectionHeader) :
    Except ReadError (List Stub) := do
  let scan ← image.scanOf Stub.entrySize s
  match scan.fault with
  | some cause => .error (.load ⟨cause, none⟩)
  | none => .ok (scan.records.map (Stub.ofRecord kind s.address))

/-- The symbol of a record, with its name read afresh. -/
def symbolOf (image : Image) (s : SectionHeader) (record : Record) : Except ReadError Symbol :=
  let index := record.offset / s.entrySize.toNat
  if index < Symbol.firstDecoded s then .ok (Symbol.placeholder index)
  else do
    let name ← image.freshString s.link (Symbol.nameOffset record.bytes)
    .ok (Symbol.decode index name record.bytes)

/-- The symbols of a section, read in one piece. -/
def symbolsIn (image : Image) (s : SectionHeader) : Except ReadError (List Symbol) :=
  match Symbol.count s with
  | .error e => .error e
  | .ok _ => do
    let scan ← image.scanOf s.entrySize.toNat s
    let symbols ← scan.records.mapM (image.symbolOf s)
    match scan.fault with
    | some cause => .error (.load ⟨cause, none⟩)
    | none => .ok symbols

end Image
end ImportStubs
