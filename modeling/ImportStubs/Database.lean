import ImportStubs.Database.Entity
import ImportStubs.Database.Nid
import ImportStubs.Json.Reader
import ImportStubs.Text.Utf8

/-!
# Import databases

Resolution asks a database four questions. The database of this library holds libraries in the order
of their addition, each under its NID, and answers from the entities themselves. It can be read from
a descriptor: a table of libraries by name, with modules, functions and variables nested in it.
-/

namespace ImportStubs

/-- The questions of a resolution, with the effect that asking them has; `none` means that nothing
is known under the NID. -/
structure Lookups (m : Type → Type) where
  findLibrary : Int → m (Option Entity)
  findModule : Entity → Int → m (Option Entity)
  findFunction : Entity → Int → m (Option Entity)
  findVariable : Entity → Int → m (Option Entity)

/-- Look-ups that have no effect. -/
abbrev ImportDatabase := Lookups Id

structure NidDatabase where
  libraries : List (Int × Library) := []
deriving DecidableEq, Repr, Inhabited

namespace NidDatabase

def empty : NidDatabase := {}

def size (db : NidDatabase) : Nat := db.libraries.length

def findLibrary (db : NidDatabase) (nid : Int) : Option Library := db.libraries.lookup nid

def findModule (library : Library) (nid : Int) : Option Module := library.modules.lookup nid

def findFunction (module : Module) (nid : Int) : Option Export := module.functions.lookup nid

def findVariable (module : Module) (nid : Int) : Option Export := module.vars.lookup nid

/-- Adds a library at the end unless its NID is taken. -/
def add (db : NidDatabase) (library : Library) : Except DatabaseError NidDatabase :=
  match db.findLibrary library.nid with
  | some other => .error (.sharedByLibraries other.name library.name library.nid)
  | none => .ok ⟨db.libraries ++ [(library.nid, library)]⟩

def ofLibraries (libraries : List Library) : Except DatabaseError NidDatabase :=
  libraries.foldlM add empty

def lookups (db : NidDatabase) : ImportDatabase where
  findLibrary nid := (db.findLibrary nid).map .library
  findModule
    | .library l, nid => (findModule l nid).map .module
    | _, _ => none
  findFunction
    | .module m, nid => (findFunction m nid).map .target
    | _, _ => none
  findVariable
    | .module m, nid => (findVariable m nid).map .target
    | _, _ => none

def tableOf (what : Text) : Value → Except DatabaseError (List (Text × Value))
  | .table members => .ok members
  | _ => .error (.notTable what)

/-- A member, or a value for one that is absent. -/
def memberD (members : List (Text × Value)) (name : String) (default : Value) : Value :=
  (Value.member? name members).getD default

/-- One more export: its NID may not be in use. -/
def addExport (what : Text) (exports : List (Int × Export)) (entry : Text × Value) :
    Except DatabaseError (List (Int × Export)) := do
  let nid ← Nid.read (what ++ " " ++ entry.1) entry.2
  match exports.lookup nid with
  | some other => .error (.sharedByExports what other.name entry.1 nid)
  | none => return exports ++ [(nid, ⟨entry.1, nid⟩)]

def readExports (what : Text) (v : Value) : Except DatabaseError (List (Int × Export)) := do
  (← tableOf what v).foldlM (addExport what) []

def readModule (name : Text) (v : Value) : Except DatabaseError Module := do
  let members ← tableOf ("module " ++ name) v
  let nid ← Nid.read ("module " ++ name) (memberD members "nid" .null)
  let functions ← readExports ("functions of " ++ name) (memberD members "functions" (.table []))
  let vars ← readExports ("variables of " ++ name) (memberD members "variables" (.table []))
  match Validation.optional "kernel" false Validation.boolean members with
  | .ok kernel => return { name, nid, kernel, functions, vars }
  | .error issues => .error (.invalidFields "ImportModule" issues)

/-- One more module of a library: its NID may not be in use. -/
def addModule (library : Text) (modules : List (Int × Module)) (entry : Text × Value) :
    Except DatabaseError (List (Int × Module)) := do
  let module ← readModule entry.1 entry.2
  match modules.lookup module.nid with
  | some other => .error (.sharedByModules library other.name entry.1 module.nid)
  | none => return modules ++ [(module.nid, module)]

def readLibrary (name : Text) (v : Value) : Except DatabaseError Library := do
  let members ← tableOf ("library " ++ name) v
  let entries ← tableOf ("modules of " ++ name) (memberD members "modules" (.table []))
  let modules ← entries.foldlM (addModule name) []
  let nid ← Nid.read ("library " ++ name) (memberD members "nid" .null)
  return { name, nid, modules }

def ofDescriptor (v : Value) : Except DatabaseError NidDatabase := do
  (← tableOf "import database" v).foldlM
    (fun db entry => do db.add (← readLibrary entry.1 entry.2)) empty

def ofSource (path : Text) (source : Source) : Except DatabaseError NidDatabase := do
  (Source.checkPath path).mapError .notPath
  let bytes ← source.read.mapError (.unreadable path)
  match Utf8.decode? bytes with
  | none => .error .notUtf8
  | some cs =>
    match Json.read cs with
    | .ok v => ofDescriptor v
    | .error .malformed => .error (.invalidJson path)
    | .error .longNumber => .error .longNumber

end NidDatabase
end ImportStubs
