import ImportStubs.Database.Entity
import ImportStubs.Stub.Kind

/-!
# Import stubs

A stub stands for one imported function or variable. Three numbers, the NIDs, identify the library,
the module in it and the target in the module. A symbol at the stub's address names it, and
resolution attaches the three entities.
-/

namespace ImportStubs

structure Stub where
  kind : StubKind
  address : Int := 0
  libraryNid : Int := 0
  moduleNid : Int := 0
  targetNid : Int := 0
  symbol : Option Symbol := none
  library : Option Entity := none
  module : Option Entity := none
  target : Option Entity := none
deriving Inhabited

namespace Stub

/-- The name of the symbol, or what is shown for a stub without one. -/
def displayName (s : Stub) : Text :=
  match s.symbol with
  | some symbol => symbol.name
  | none => "(unreferenced stub)"

def isResolved (s : Stub) : Bool := s.library.isSome && s.module.isSome && s.target.isSome

/-- The stub without the entities of an earlier resolution. -/
def cleared (s : Stub) : Stub := { s with library := none, module := none, target := none }

private def textOrNull : Option Text → Value
  | some t => .text t
  | none => .null

/-- The stub as a document: its numbers and the names of what is attached. -/
def summary (s : Stub) : List (Text × Value) :=
  [("kind", .text s.kind.name), ("address", .int s.address), ("library_nid", .int s.libraryNid),
    ("module_nid", .int s.moduleNid), ("target_nid", .int s.targetNid),
    ("symbol", textOrNull (s.symbol.map (·.name))),
    ("library", textOrNull (s.library.bind (·.name?))),
    ("module", textOrNull (s.module.bind (·.name?))),
    ("target", textOrNull (s.target.bind (·.name?)))]

end Stub
end ImportStubs
