import ImportStubs.Value

/-!
# Entities of an import database

A library contains modules, and a module exports functions and variables; each has a name and a NID.
Contained entities are held under a key, which a descriptor makes equal to the NID.
-/

namespace ImportStubs

structure Export where
  name : Text
  nid : Int
deriving DecidableEq, Repr, Inhabited

structure Module where
  name : Text
  nid : Int
  kernel : Bool := false
  functions : List (Int × Export) := []
  vars : List (Int × Export) := []
deriving DecidableEq, Repr, Inhabited

structure Library where
  name : Text
  nid : Int
  modules : List (Int × Module) := []
deriving DecidableEq, Repr, Inhabited

/-- What a stub can refer to: an entity of a database, or a value that some other database answers
with. -/
inductive Entity where
  | library (library : Library)
  | module (module : Module)
  | target (target : Export)
  | value (value : Value)
deriving Inhabited

namespace Entity

/-- A plain value has no name of its own. -/
def name? : Entity → Option Text
  | library l => some l.name
  | module m => some m.name
  | target t => some t.name
  | value _ => none

def label : Entity → Text
  | value v => v.plain
  | e => e.name?.getD []

end Entity
end ImportStubs
