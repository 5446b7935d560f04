import ImportStubs.Number.Radix
import ImportStubs.Text.Quoted
import ImportStubs.Word

/-!
# Section headers

An entry of the section header table with its position in the table and its name. The null section
at position zero has no name. Numbers are integers rather than words, so that a header can also
describe what no file holds.
-/

namespace ImportStubs

structure SectionHeader where
  index : Int := 0
  name : Text := []
  nameOffset : Int := 0
  type : Int := 0
  flags : Int := 0
  address : Int := 0
  offset : Int := 0
  size : Int := 0
  link : Int := 0
  info : Int := 0
  alignment : Int := 0
  entrySize : Int := 0
deriving DecidableEq, Repr, Inhabited

/-- The section types that matter here. -/
inductive SectionType where
  | null
  | programBits
  | symbolTable
  | stringTable
  | noBits
  | extendedIndexes
deriving DecidableEq, Repr

namespace SectionType

def ofNumber? (n : Int) : Option SectionType :=
  if n = 0 then some null
  else if n = 1 then some programBits
  else if n = 2 then some symbolTable
  else if n = 3 then some stringTable
  else if n = 8 then some noBits
  else if n = 18 then some extendedIndexes
  else none

def name : SectionType → String
  | null => "NULL"
  | programBits => "PROGBITS"
  | symbolTable => "SYMTAB"
  | stringTable => "STRTAB"
  | noBits => "NOBITS"
  | extendedIndexes => "SYMTAB_SHNDX"

end SectionType

namespace SectionHeader

/-- The size of an entry of the section header table. -/
def byteSize : Nat := 40

def kind? (s : SectionHeader) : Option SectionType := SectionType.ofNumber? s.type

def typeName (s : SectionHeader) : Text :=
  match s.kind? with
  | some kind => kind.name
  | none => Text.hex s.type

/-- The entry in some bytes, without its name. -/
def decode (index : Nat) (bytes : List UInt8) : SectionHeader where
  index := index
  nameOffset := Word.at32 0 bytes
  type := Word.at32 4 bytes
  flags := Word.at32 8 bytes
  address := Word.at32 12 bytes
  offset := Word.at32 16 bytes
  size := Word.at32 20 bytes
  link := Word.at32 24 bytes
  info := Word.at32 28 bytes
  alignment := Word.at32 32 bytes
  entrySize := Word.at32 36 bytes

/-- A one-line description. -/
def literal (s : SectionHeader) : Text :=
  "SectionHeader(index=" ++ Text.ofInt s.index ++ ", name=" ++ Text.Quoted.quote s.name ++
    ", type=" ++ s.typeName ++ ", addr=" ++ Text.hexWord s.address ++ ", size=" ++
    Text.ofInt s.size ++ ")"

end SectionHeader
end ImportStubs
