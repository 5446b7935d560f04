import ImportStubs.Source
import ImportStubs.Toml.Reader

/-!
# Settings

Settings stand in two tables of a document, one for logging and one for the extraction of stubs.
What is absent has a default, and what is not known is ignored. A known member must have exactly the
type of its default: a truth value is no integer, and neither is a number with a fraction. Members
are checked in document order, ranges at the end.
-/

namespace ImportStubs

structure GlobalSettings where
  logLevel : Text := "INFO"
  logFile : Text := ""
  logJson : Bool := false
  debug : Bool := false
  version : Text := "1.0.0"
deriving DecidableEq, Repr, Inhabited

structure LinkSettings where
  chunkSize : Int := 0
  importDb : Text := ""
  maxFileSize : Int := 268435456
deriving DecidableEq, Repr, Inhabited

structure Settings where
  global : GlobalSettings := {}
  link : LinkSettings := {}
deriving DecidableEq, Repr, Inhabited

/-- The types that a member can have. -/
inductive SettingType where
  | text
  | int
  | bool
deriving DecidableEq, Repr

def SettingType.name : SettingType → String
  | text => "str"
  | int => "int"
  | bool => "bool"

inductive SettingsError where
  | missingFile (path : Text)
  | notUtf8
  | malformed
  /-- The document holds an integer that is too long to be read, or an unsuitable one that is too
  long to be shown. -/
  | longNumber
  | notTable (table : String)
  | wrongType (table name : String) (expected : SettingType) (value : Value)
  | negative (name : String) (value : Int)
deriving DecidableEq

namespace SettingsError

/-- The message, for the causes that have one of their own. -/
def message? : SettingsError → Option Text
  | missingFile path => some ("Configuration file not found: " ++ path)
  | notTable table => some ("[" ++ Text.ofString table ++ "] must be a table")
  | wrongType table name expected value =>
    some (Text.ofString table ++ "." ++ name ++ " must be " ++ expected.name ++ ", got " ++
      value.literal)
  | negative name value =>
    some ("link." ++ Text.ofString name ++ " must be >= 0, got " ++ Text.ofInt value)
  | notUtf8 | malformed | longNumber => none

end SettingsError

namespace Settings

def mismatch (table name : String) (expected : SettingType) (v : Value) : SettingsError :=
  if v.isShowable then .wrongType table name expected v else .longNumber

/-- How the members of a table of settings are called and set. -/
inductive Member (σ : Type) where
  | text (name : String) (set : Text → σ → σ)
  | int (name : String) (set : Int → σ → σ)
  | bool (name : String) (set : Bool → σ → σ)

def Member.name {σ : Type} : Member σ → String
  | text name _ | int name _ | bool name _ => name

/-- Sets a member to a value of its type. -/
def Member.apply {σ : Type} (table : String) (v : Value) (s : σ) : Member σ → Except SettingsError σ
  | .text name set => match v with
    | .text t => .ok (set t s)
    | _ => .error (mismatch table name .text v)
  | .int name set => match v with
    | .int n => .ok (set n s)
    | _ => .error (mismatch table name .int v)
  | .bool name set => match v with
    | .bool b => .ok (set b s)
    | _ => .error (mismatch table name .bool v)

/-- Reads a table of settings over the defaults. -/
def readTable {σ : Type} (table : String) (members : List (Member σ)) (default : σ) :
    Option Value → Except SettingsError σ
  | none => .ok default
  | some (.table entries) =>
    entries.foldlM
      (fun s entry => match members.find? fun m => entry.1.is m.name with
        | some m => m.apply table entry.2 s
        | none => .ok s)
      default
  | some _ => .error (.notTable table)

def globalMembers : List (Member GlobalSettings) :=
  [.text "log_level" fun t s => { s with logLevel := t },
    .text "log_file" fun t s => { s with logFile := t },
    .bool "log_json" fun b s => { s with logJson := b },
    .bool "debug" fun b s => { s with debug := b },
    .text "version" fun t s => { s with version := t }]

def linkMembers : List (Member LinkSettings) :=
  [.int "chunk_size" fun n s => { s with chunkSize := n },
    .text "import_db" fun t s => { s with importDb := t },
    .int "max_file_size" fun n s => { s with maxFileSize := n }]

def readGlobal (v : Option Value) : Except SettingsError GlobalSettings :=
  readTable "global" globalMembers {} v

def readLink (v : Option Value) : Except SettingsError LinkSettings :=
  readTable "link" linkMembers {} v

/-- Neither number may be negative. -/
def validate (s : LinkSettings) : Except SettingsError LinkSettings :=
  if s.chunkSize < 0 then .error (.negative "chunk_size" s.chunkSize)
  else if s.maxFileSize < 0 then .error (.negative "max_file_size" s.maxFileSize)
  else .ok s

/-- The settings in a document. -/
def ofDocument (members : List (Text × Value)) : Except SettingsError Settings := do
  let global ← readGlobal (Value.member? "global" members)
  let link ← readLink (Value.member? "link" members)
  return { global, link := ← validate link }

/-- The settings in the bytes of a file. -/
def ofBytes (bytes : List UInt8) : Except SettingsError Settings :=
  match Utf8.decode? bytes with
  | none => .error .notUtf8
  | some cs =>
    match Toml.read cs with
    | .ok members => ofDocument members
    | .error .malformed => .error .malformed
    | .error .longNumber => .error .longNumber

/-- The settings in a file that must exist. -/
def load (path : Text) : Source → Except SettingsError Settings
  | .file bytes => ofBytes bytes
  | _ => .error (.missingFile path)

/-- The settings in a file that may be absent. -/
def loadDefault : Source → Except SettingsError Settings
  | .file bytes => ofBytes bytes
  | _ => .ok {}

/-- The settings as a document. -/
def globalFields (s : GlobalSettings) : List (Text × Value) :=
  [("log_level", .text s.logLevel), ("log_file", .text s.logFile), ("log_json", .bool s.logJson),
    ("debug", .bool s.debug), ("version", .text s.version)]

def linkFields (s : LinkSettings) : List (Text × Value) :=
  [("chunk_size", .int s.chunkSize), ("import_db", .text s.importDb),
   ("max_file_size", .int s.maxFileSize)]

def toFields (s : Settings) : List (Text × Value) :=
  [("global_settings", .table (globalFields s.global)), ("link", .table (linkFields s.link))]

end Settings
end ImportStubs
