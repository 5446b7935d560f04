import ImportStubs.Symbol

/-!
# Stub kinds

A binary keeps the stubs of imported functions and of imported variables in two sections. Function
stubs are named by function symbols, variable stubs by object symbols.
-/

namespace ImportStubs

inductive StubKind where
  | functionStub
  | variableStub
deriving DecidableEq, Repr, Inhabited

namespace StubKind

def name : StubKind → Text
  | functionStub => "function"
  | variableStub => "variable"

/-- The order in which the kinds are visited. -/
def all : List StubKind := [functionStub, variableStub]

def sectionName : StubKind → Text
  | functionStub => ".vitalink.fstubs"
  | variableStub => ".vitalink.vstubs"

def symbolKind : StubKind → SymbolKind
  | functionStub => .function
  | variableStub => .object

end StubKind
end ImportStubs
