import ImportStubs.Database
import ImportStubs.Log
import ImportStubs.Stub

/-!
# Resolution

A stub is resolved by looking up its library, then the module in it, then the function or variable
in that. The first look-up without an answer is the stub's miss, and the stub keeps no entity. A
pass visits every stub in order, logs a warning for each miss and counts in a report; earlier
resolutions have no influence on it.
-/

namespace ImportStubs

inductive Stage where
  | library
  | module
  | target
deriving DecidableEq, Repr, Inhabited

structure Miss where
  kind : StubKind
  address : Int
  stage : Stage
  nid : Int
  symbol : Text
deriving DecidableEq, Repr, Inhabited

namespace Miss

def stageName (m : Miss) : Text :=
  match m.stage with
  | .library => "library"
  | .module => "module"
  | .target => m.kind.name

def message (m : Miss) : Text :=
  let what := "Unable to find " ++ m.stageName ++ " with NID " ++ Text.hexWordUpper m.nid ++ " for "
  match m.stage with
  | .target => what ++ "symbol " ++ m.symbol
  | _ => what ++ m.kind.name ++ " symbol " ++ m.symbol

def toFields (m : Miss) : List (Text × Value) :=
  [("kind", .text m.kind.name), ("address", .int m.address), ("stage", .text m.stageName),
    ("nid", .int m.nid), ("symbol", .text m.symbol), ("message", .text m.message)]

end Miss

structure Report where
  total : Nat := 0
  resolved : Nat := 0
  unresolved : List Miss := []
deriving DecidableEq, Repr, Inhabited

namespace Report

def allResolved (r : Report) : Bool := r.unresolved.isEmpty

def toFields (r : Report) : List (Text × Value) :=
  [("all_resolved", .bool r.allResolved), ("total", .int r.total), ("resolved", .int r.resolved),
    ("unresolved", .list (r.unresolved.map fun m => .table m.toFields))]

end Report

namespace Resolution

variable {m : Type → Type} [Monad m]

def findTarget (db : Lookups m) (kind : StubKind) : Entity → Int → m (Option Entity) :=
  match kind with
  | .functionStub => db.findFunction
  | .variableStub => db.findVariable

def missAt (s : Stub) (stage : Stage) (nid : Int) : Miss :=
  { kind := s.kind, address := s.address, stage, nid, symbol := s.displayName }

/-- The three entities of a stub, or the look-up that failed. -/
def lookUp (db : Lookups m) (s : Stub) : m (Except Miss (Entity × Entity × Entity)) := do
  match ← db.findLibrary s.libraryNid with
  | none => return .error (missAt s .library s.libraryNid)
  | some library =>
    match ← db.findModule library s.moduleNid with
    | none => return .error (missAt s .module s.moduleNid)
    | some module =>
      match ← findTarget db s.kind module s.targetNid with
      | none => return .error (missAt s .target s.targetNid)
      | some target => return .ok (library, module, target)

/-- The stub after resolution, and its miss. -/
def resolve (db : Lookups m) (s : Stub) : m (Stub × Option Miss) := do
  match ← lookUp db s with
  | .ok (library, module, target) =>
    return ({ s with library := some library, module := some module, target := some target }, none)
  | .error miss => return (s.cleared, some miss)

structure Pass where
  stubs : List Stub
  report : Report
  foundAll : Bool
deriving Inhabited

/-- Counts one more stub. -/
def count (r : Report) : Option Miss → Report
  | none => { r with total := r.total + 1, resolved := r.resolved + 1 }
  | some miss => { r with total := r.total + 1, unresolved := r.unresolved ++ [miss] }

/-- Logs a warning for a miss. -/
def warn : Option Miss → Logger → Logger
  | none, logger => logger
  | some miss, logger => ((Logger.warning miss.message).run logger).2

/-- Resolves stubs in order and continues a report. -/
def pass (db : Lookups m) : List Stub → Report → StateT Logger m Pass
  | [], report => pure ⟨[], report, true⟩
  | stub :: rest, report => do
    let (stub, miss) ← (resolve db stub : m (Stub × Option Miss))
    modify (warn miss)
    let next ← pass db rest (count report miss)
    return { next with stubs := stub :: next.stubs, foundAll := miss.isNone && next.foundAll }

end Resolution
end ImportStubs
