import ImportStubs.Elf.Image
import ImportStubs.Stub

/-!
# Stub sections

A stub section is an array of sixteen-byte entries: the NIDs of the library, the module and the
target, and a reserved word. A stub's address is the section's address plus the offset of its entry,
as a 32-bit word.
-/

namespace ImportStubs.Stub

def entrySize : Nat := 16

/-- The number of whole entries that a section declares. -/
def count (s : SectionHeader) : Int := s.size / entrySize

def ofRecord (kind : StubKind) (base : Int) (record : Record) : Stub where
  kind := kind
  address := (base + record.offset) % 0x100000000
  libraryNid := Word.at32 0 record.bytes
  moduleNid := Word.at32 4 record.bytes
  targetNid := Word.at32 8 record.bytes

/-- The stubs of a section in the order of their entries. -/
def readTable (kind : StubKind) (s : SectionHeader) (chunks : List Chunk) :
    Except LoadFault (List Stub) :=
  let scan := Record.scan entrySize s.size chunks
  match scan.fault with
  | some cause => .error cause
  | none => .ok (scan.records.map (ofRecord kind s.address))

end ImportStubs.Stub
