import ImportStubs.Number.Numeral
import ImportStubs.Number.Radix
import ImportStubs.Source
import ImportStubs.Symbol
import ImportStubs.Stub.Kind

/-!
# Why a binary cannot be used

Each cause belongs to one category, and each category has a stable tag for callers that branch on
it. The text of an error names the path in front of the message once the path is known. An error has
its text from the start, so a fault with a number that is too long to be shown ends with the refusal
to show it, and not with an error of its category.
-/

namespace ImportStubs

inductive LoadFault where
  | cannotOpen (reason : Text)
  | tooLarge (size limit : Int)
  | notAnObject
  | wrongWordSize (elfClass : Nat)
  | wrongEndianness (encoding : Nat)
  | wrongMachine (machine : Nat)
  | truncatedHeader
  | smallSectionEntry (size : Nat)
  | outsideFile (offset size fileSize : Int)
  | sectionOutOfRange (index : Int)
  | notStringTable (index : Int)
  | stringOutsideTable (offset index : Int) (length : Nat)
  | smallSymbolEntry (size : Int)
  | unknownName (offset : Int)
  | misplacedChunk (offset : Int) (consumed : Nat)
  | shortData (consumed : Nat) (total : Int)
  | duplicateStubSection (kind : StubKind)
  | noStubSections
  | multipleSymbolTables
  | missingSymbolTable
  | symbolTypeMismatch (symbol : Text) (sectionIndex : Int) (expected actual : SymbolKind)
  | danglingStubSymbol (symbol : Text) (sectionIndex value : Int)
  | duplicateStubSymbol (value sectionIndex : Int) (first second : Text)
deriving DecidableEq, Repr

inductive LoadErrorCategory where
  | openFailed
  | notAnObjectFile
  | wrongWordSize
  | wrongEndianness
  | wrongMachine
  | malformedObject
  | duplicateStubSection
  | noStubSections
  | multipleSymbolTables
  | missingSymbolTable
  | symbolTypeMismatch
  | danglingStubSymbol
  | duplicateStubSymbol
deriving DecidableEq, Repr

def LoadErrorCategory.tag : LoadErrorCategory → String
  | openFailed => "open-failed"
  | notAnObjectFile => "not-an-object-file"
  | wrongWordSize => "wrong-word-size"
  | wrongEndianness => "wrong-endianness"
  | wrongMachine => "wrong-machine"
  | malformedObject => "malformed-object"
  | duplicateStubSection => "duplicate-stub-section"
  | noStubSections => "no-stub-sections"
  | multipleSymbolTables => "multiple-symbol-tables"
  | missingSymbolTable => "missing-symbol-table"
  | symbolTypeMismatch => "symbol-type-mismatch"
  | danglingStubSymbol => "dangling-stub-symbol"
  | duplicateStubSymbol => "duplicate-stub-symbol"

namespace LoadFault

def category : LoadFault → LoadErrorCategory
  | cannotOpen _ | tooLarge .. => .openFailed
  | notAnObject => .notAnObjectFile
  | wrongWordSize _ => .wrongWordSize
  | wrongEndianness _ => .wrongEndianness
  | wrongMachine _ => .wrongMachine
  | truncatedHeader | smallSectionEntry _ | outsideFile .. | sectionOutOfRange _ | notStringTable _
  | stringOutsideTable .. | smallSymbolEntry _ | unknownName _ | misplacedChunk ..
  | shortData .. => .malformedObject
  | duplicateStubSection _ => .duplicateStubSection
  | noStubSections => .noStubSections
  | multipleSymbolTables => .multipleSymbolTables
  | missingSymbolTable => .missingSymbolTable
  | symbolTypeMismatch .. => .symbolTypeMismatch
  | danglingStubSymbol .. => .danglingStubSymbol
  | duplicateStubSymbol .. => .duplicateStubSymbol

open Text in
def message : LoadFault → Text
  | cannotOpen reason => "open failed: " ++ reason
  | tooLarge size limit =>
    "file too large: " ++ grouped size ++ " bytes (max: " ++ grouped limit ++ " bytes)"
  | notAnObject => "not an ELF file"
  | wrongWordSize elfClass => "not a 32-bit binary (EI_CLASS=" ++ ofNat elfClass ++ ")"
  | wrongEndianness encoding => "not a little-endian binary (EI_DATA=" ++ ofNat encoding ++ ")"
  | wrongMachine machine => "not an ARM binary (e_machine=" ++ ofNat machine ++ ")"
  | truncatedHeader => "truncated ELF header"
  | smallSectionEntry size => "section header entry size " ++ ofNat size ++ " too small"
  | outsideFile offset size fileSize =>
    "range " ++ hex offset ++ "+" ++ hex size ++ " exceeds file size " ++ hex fileSize
  | sectionOutOfRange index => "section index " ++ ofInt index ++ " out of range"
  | notStringTable index => "section " ++ ofInt index ++ " is not a string table"
  | stringOutsideTable offset index length =>
    "string offset " ++ ofInt offset ++ " outside string table " ++ ofInt index ++ " (" ++
      ofNat length ++ " bytes)"
  | smallSymbolEntry size =>
    "symbol table entry size " ++ ofInt size ++ " is smaller than an Elf32_Sym (16)"
  | unknownName offset => "bad name offset " ++ ofInt offset
  | misplacedChunk offset consumed =>
    "section data chunk at offset " ++ hex offset ++
      " does not follow previous data ending at " ++ hex consumed
  | shortData consumed total =>
    "section data ends after " ++ hex consumed ++ " of " ++ hex total ++ " bytes"
  | duplicateStubSection kind => "Multiple " ++ kind.sectionName ++ " sections in binary"
  | noStubSections => "No .vitalink stub sections in binary, probably not a Vita binary"
  | multipleSymbolTables => "ELF file appears to have multiple symbol tables"
  | missingSymbolTable => "No symbol table in binary, perhaps stripped out"
  | symbolTypeMismatch symbol sectionIndex expected actual =>
    "Global symbol " ++ symbol ++ " in section " ++ ofInt sectionIndex ++
      " expected to have type " ++ ofString expected.name ++ "; instead has type " ++
      ofString actual.name
  | danglingStubSymbol symbol sectionIndex value =>
    "Global symbol " ++ symbol ++ " in section " ++ ofInt sectionIndex ++
      " not pointing to a valid stub (" ++ hexWord value ++ ")"
  | duplicateStubSymbol value sectionIndex first second =>
    "Stub at " ++ hexWord value ++ " in section " ++ ofInt sectionIndex ++
      " has duplicate symbols: " ++ first ++ ", " ++ second

/-- Whether the message can be made: no number that it shows in decimal is too long. Those that are
read off the words of a file never are, and neither is a limit below the size of a file, unless it
is negative. -/
def isShowable : LoadFault → Bool
  | tooLarge _ limit => 0 ≤ limit || Numeral.isShowable limit
  | sectionOutOfRange index | notStringTable index => Numeral.isShowable index
  | stringOutsideTable offset index _ => Numeral.isShowable offset && Numeral.isShowable index
  | smallSymbolEntry size => Numeral.isShowable size
  | unknownName offset => Numeral.isShowable offset
  | symbolTypeMismatch _ sectionIndex _ _ | danglingStubSymbol _ sectionIndex _
  | duplicateStubSymbol _ sectionIndex _ _ => Numeral.isShowable sectionIndex
  | _ => true

end LoadFault

/-- A cause and, once known, the path of the binary. -/
structure LoadError where
  fault : LoadFault
  path : Option Text := none
deriving DecidableEq, Repr

namespace LoadError

def tag (e : LoadError) : String := e.fault.category.tag

def message (e : LoadError) : Text := e.fault.message

/-- Fills in the path unless there is one already. -/
def located (path : Text) (e : LoadError) : LoadError := { e with path := some (e.path.getD path) }

/-- The message, after the path if that is known and not empty. -/
def toText (e : LoadError) : Text :=
  match e.path with
  | some (c :: path) => c :: path ++ ": " ++ e.message
  | _ => e.message

end LoadError

inductive ReadError where
  | closed
  | notPath (cause : PathFault)
  | longNumber
  | load (error : LoadError)
deriving DecidableEq, Repr

namespace ReadError

/-- What a fault ends with. -/
def ofFault (path : Option Text) (cause : LoadFault) : ReadError :=
  if cause.isShowable then .load ⟨cause, path⟩ else .longNumber

def message? : ReadError → Option Text
  | closed => some "read from a closed ElfImage"
  | notPath cause => cause.message?
  | longNumber => none
  | load error => some error.toText

end ReadError
end ImportStubs
