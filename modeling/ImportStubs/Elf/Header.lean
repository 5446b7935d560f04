import ImportStubs.Word

/-!
# The file header

The first sixteen bytes identify the file: a magic number, the word size and the byte order. The
remaining thirteen fields are little-endian words of two or four bytes at fixed places.
-/

namespace ImportStubs

structure ElfHeader where
  elfClass : Nat
  encoding : Nat
  type : Nat
  machine : Nat
  version : Nat
  entry : Nat
  programOffset : Nat
  sectionOffset : Nat
  flags : Nat
  headerSize : Nat
  programEntrySize : Nat
  programCount : Nat
  sectionEntrySize : Nat
  sectionCount : Nat
  nameTable : Nat
deriving DecidableEq, Repr, Inhabited

namespace ElfHeader

def identSize : Nat := 16

def size : Nat := 52

def magic : List UInt8 := [0x7F, 0x45, 0x4C, 0x46]

/-- The header at the start of some bytes. -/
def decode (bytes : List UInt8) : ElfHeader where
  elfClass := (bytes.getD 4 0).toNat
  encoding := (bytes.getD 5 0).toNat
  type := Word.at16 16 bytes
  machine := Word.at16 18 bytes
  version := Word.at32 20 bytes
  entry := Word.at32 24 bytes
  programOffset := Word.at32 28 bytes
  sectionOffset := Word.at32 32 bytes
  flags := Word.at32 36 bytes
  headerSize := Word.at16 40 bytes
  programEntrySize := Word.at16 42 bytes
  programCount := Word.at16 44 bytes
  sectionEntrySize := Word.at16 46 bytes
  sectionCount := Word.at16 48 bytes
  nameTable := Word.at16 50 bytes

end ElfHeader
end ImportStubs
