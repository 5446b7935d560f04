import ImportStubs.Elf.Image
import ImportStubs.Symbol

/-!
# Symbol tables

A symbol-table section is an array of entries whose size the section header gives; the first sixteen
bytes of an entry are used. Entries below the section's info number are local and stay placeholders,
and so does the null symbol; the others are decoded in order and their names are looked up. The
entry size is checked before the data is taken.

A section index that does not fit an entry is marked there, and a second section holds the real
index of every symbol. Replacements before a fault stay.
-/

namespace ImportStubs

namespace Symbol

def entrySize : Nat := 16

/-- The mark of a section index that is held elsewhere. -/
def extendedMark : Int := 0xFFFF

def count (s : SectionHeader) : Except ReadError Int :=
  if s.entrySize < entrySize then .error (.ofFault none (.smallSymbolEntry s.entrySize))
  else .ok (s.size / s.entrySize)

def nameOffset (bytes : List UInt8) : Nat := Word.at32 0 bytes

def decode (index : Nat) (name : Text) (bytes : List UInt8) : Symbol :=
  let info := (bytes.getD 12 0).toNat
  { index, name
    value := Word.at32 4 bytes
    kind := .ofInfo info
    binding := .ofInfo info
    sectionIndex := Word.at16 14 bytes
    rawType := info % 16
    rawBinding := info / 16 }

/-- The first position whose entry is decoded. -/
def firstDecoded (s : SectionHeader) : Int := max s.info 1

variable {m : Type → Type} [Monad m]

def ofRecord (s : SectionHeader) (names : Nat → ExceptT ReadError m Text) (record : Record) :
    ExceptT ReadError m Symbol := do
  let index := record.offset / s.entrySize.toNat
  if index < firstDecoded s then return placeholder index
  let name ← names (nameOffset record.bytes)
  return decode index name record.bytes

/-- A name that cannot be looked up counts before what is wrong with later data. -/
def readTable (s : SectionHeader) (data : ExceptT ReadError m (List Chunk))
    (names : Nat → ExceptT ReadError m Text) : ExceptT ReadError m (List Symbol) := do
  match count s with
  | .error e => throw e
  | .ok _ =>
    let scan := Record.scan s.entrySize.toNat s.size (← data)
    let symbols ← scan.records.mapM (ofRecord s names)
    match scan.fault with
    | some cause => throw (.load ⟨cause, none⟩)
    | none => return symbols

/-- Takes the indexes of marked symbols from the records of an index table, entry by entry. Records
beyond the symbols end the reading. -/
def extendFrom (fault : Option LoadFault) :
    List Symbol → List Record → List Symbol × Except LoadFault Nat
  | symbols, [] => (symbols, match fault with
    | some cause => .error cause
    | none => .ok 0)
  | [], _ :: _ => ([], .ok 0)
  | symbol :: symbols, record :: records =>
    let (symbols, result) := extendFrom fault symbols records
    if symbol.sectionIndex = extendedMark then
      ({ symbol with sectionIndex := Word.at32 0 record.bytes } :: symbols, result.map (· + 1))
    else (symbol :: symbols, result)

def extendIndexes (symbols : List Symbol) (s : SectionHeader) (chunks : List Chunk) :
    List Symbol × Except LoadFault Nat :=
  let scan := Record.scan 4 s.size chunks
  extendFrom scan.fault symbols scan.records

end Symbol
end ImportStubs
