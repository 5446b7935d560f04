import ImportStubs.Elf.Header
import ImportStubs.Elf.SectionHeader
import ImportStubs.Record
import ImportStubs.Text.Utf8

/-!
# Images

An image is an open file with a valid header and a readable section table. Payloads are handed out
in pieces of a chosen size, zero meaning one piece for the whole payload. String tables are
remembered after the first look; a closed image remembers nothing and reads nothing, but still
answers for its header and its sections. The null section is not among those that an image hands
out. A count of zero in the header means that the size of the null section holds the count. The file
of an open image does not change, and reading it does not fail.
-/

namespace ImportStubs

def Chunk.split (size base : Nat) (bytes : List UInt8) : List Chunk :=
  if _h : 0 < size ∧ bytes ≠ [] then
    ⟨base, bytes.take size⟩ :: Chunk.split size (base + size) (bytes.drop size)
  else []
termination_by bytes.length
decreasing_by
  have := List.length_pos_iff.mpr _h.2
  simp only [List.length_drop]
  omega

structure Image where
  path : Text
  pieceSize : Int
  bytes : List UInt8
  header : ElfHeader
  sections : List SectionHeader
  /-- String tables by section index. -/
  tables : List (Int × List UInt8) := []
  closed : Bool := false
deriving DecidableEq, Repr, Inhabited

namespace Image

/-- An operation that may remember a table, also when it fails. -/
abbrev Action := ExceptT ReadError (StateM Image)

def fileSize (image : Image) : Nat := image.bytes.length

def fault (image : Image) (cause : LoadFault) : ReadError := .ofFault (some image.path) cause

def read (image : Image) (offset size : Int) : Except ReadError (List UInt8) :=
  if image.closed then .error .closed
  else if offset < 0 ∨ size < 0 ∨ image.fileSize < offset + size then
    .error (image.fault (.outsideFile offset size image.fileSize))
  else .ok ((image.bytes.drop offset.toNat).take size.toNat)

def sectionAt (image : Image) (index : Int) : Except ReadError SectionHeader :=
  match if 0 < index then image.sections[index.toNat]? else none with
  | some s => .ok s
  | none => .error (image.fault (.sectionOutOfRange index))

def namedSections (image : Image) : List SectionHeader := image.sections.drop 1

/-- The payload of a section in pieces. A negative piece size yields no piece. -/
def pieces (image : Image) (s : SectionHeader) : Except ReadError (List Chunk) :=
  if s.kind? = some .noBits ∨ s.size = 0 then .ok []
  else
    (image.read s.offset s.size).map fun bytes =>
      if image.pieceSize = 0 then Chunk.split bytes.length 0 bytes
      else Chunk.split image.pieceSize.toNat 0 bytes

def stringTable (image : Image) (index : Int) : Except ReadError (List UInt8) := do
  let s ← image.sectionAt index
  if s.kind? = some .stringTable then image.read s.offset s.size
  else .error (image.fault (.notStringTable index))

/-- The string that starts at an offset of a table and ends before a zero byte or at the end. -/
def stringIn (image : Image) (index offset : Int) (table : List UInt8) : Except ReadError Text :=
  if offset < 0 ∨ table.length ≤ offset then
    .error (image.fault (.stringOutsideTable offset index table.length))
  else .ok (Text.ofChars (Utf8.decodeLossy ((table.drop offset.toNat).takeWhile (· ≠ 0))))

def stringAt (index offset : Int) : Action Text := fun image =>
  match image.tables.lookup index with
  | some table => (image.stringIn index offset table, image)
  | none =>
    match image.stringTable index with
    | .error e => (.error e, image)
    | .ok table =>
      (image.stringIn index offset table, { image with tables := (index, table) :: image.tables })

def close (image : Image) : Image := { image with tables := [], closed := true }

/-- The header of a file, or the first fault that its beginning shows. -/
def checkHeader (bytes : List UInt8) : Except LoadFault ElfHeader :=
  let header := ElfHeader.decode bytes
  if bytes.length < ElfHeader.identSize ∨ bytes.take 4 ≠ ElfHeader.magic then .error .notAnObject
  else if header.elfClass ≠ 1 then .error (.wrongWordSize header.elfClass)
  else if header.encoding ≠ 1 then .error (.wrongEndianness header.encoding)
  else if bytes.length < ElfHeader.size then .error .truncatedHeader
  else if header.machine ≠ 40 then .error (.wrongMachine header.machine)
  else .ok header

def readSection (image : Image) (index : Nat) : Except ReadError SectionHeader :=
  let offset := image.header.sectionOffset + index * image.header.sectionEntrySize
  (image.read offset SectionHeader.byteSize).map (SectionHeader.decode index)

def readSections (image : Image) (index : Nat) :
    (count : Nat) → Except ReadError (List SectionHeader)
  | 0 => .ok []
  | count + 1 => do
    let s ← image.readSection index
    let rest ← image.readSections (index + 1) count
    return s :: rest

def sectionTable (image : Image) : Except ReadError (List SectionHeader) :=
  if image.header.sectionOffset = 0 then .ok []
  else if image.header.sectionEntrySize < SectionHeader.byteSize then
    .error (image.fault (.smallSectionEntry image.header.sectionEntrySize))
  else do
    let null ← image.readSection 0
    let count :=
      if image.header.sectionCount = 0 then null.size.toNat else image.header.sectionCount
    let rest ← image.readSections 1 (count - 1)
    return null :: rest

/-- The position of the section that holds the section names. -/
def nameTable (image : Image) : Int :=
  if image.header.nameTable = 0xFFFF then
    match image.sections with
    | null :: _ => null.link
    | [] => image.header.nameTable
  else image.header.nameTable

def nameSections (table : Int) : List SectionHeader → Action (List SectionHeader)
  | [] => pure []
  | s :: rest => do
    let name ← stringAt table s.nameOffset
    let rest ← nameSections table rest
    return { s with name } :: rest

def nameAll : Action Unit := do
  let image ← get
  match image.sections with
  | null :: s :: rest =>
    let named ← nameSections image.nameTable (s :: rest)
    modify fun image => { image with sections := null :: named }
  | _ => return

/-- Keeps in the image what it has answered. -/
def learn (question : Image → Except ReadError Image) : Action Unit := fun image =>
  match question image with
  | .ok image => (.ok (), image)
  | .error e => (.error e, image)

/-- The size of the file under a limit other than zero, then its header, its section table and the
names of its sections. -/
def examine (limit : Int) : Action Unit := do
  learn fun image =>
    if limit ≠ 0 ∧ limit < image.fileSize then
      .error (image.fault (.tooLarge image.fileSize limit))
    else .ok image
  learn fun image =>
    ((checkHeader image.bytes).mapError image.fault).map fun header => { image with header }
  learn fun image => image.sectionTable.map fun sections => { image with sections }
  nameAll

/-- Why there is no image, and the image that had been made for the file. -/
structure Failure where
  error : ReadError
  image : Option Image := none
deriving DecidableEq, Repr

/-- Opens a file. It is closed again if the examination fails. -/
def opening (path : Text) (pieceSize limit : Int) (source : Source) : Except Failure Image :=
  match Source.checkPath path with
  | .error cause => .error { error := .notPath cause }
  | .ok _ =>
    match source.read with
    | .error failure => .error { error := .ofFault (some path) (.cannotOpen failure.reason) }
    | .ok bytes =>
      let image : Image := { path, pieceSize, bytes, header := default, sections := [] }
      match (examine limit).run.run image with
      | (.ok _, image) => .ok image
      | (.error error, image) => .error { error, image := some image.close }

def openAt (path : Text) (pieceSize limit : Int) (source : Source) : Except ReadError Image :=
  (opening path pieceSize limit source).mapError Failure.error

end Image
end ImportStubs
