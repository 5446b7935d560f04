import ImportStubs.LoadError
import ImportStubs.Stub

/-!
# Correlation of stubs and symbols

Every global function or object symbol of a stub section names the first stub at its address. The
symbol must have the kind that the section expects, there must be such a stub, and the stub may not
have a symbol yet. Symbols are taken in table order, and what was attached before a fault stays
attached.
-/

namespace ImportStubs.Correlation

/-- A symbol that names a stub of a section. -/
def isRelevant (sectionIndex : Int) (symbol : Symbol) : Bool :=
  symbol.binding == .globalBinding && symbol.kind != .other && symbol.sectionIndex == sectionIndex

def attach (sectionIndex : Int) (symbol : Symbol) : List Stub → Except ReadError (List Stub)
  | [] => .error (.ofFault none (.danglingStubSymbol symbol.name sectionIndex symbol.value))
  | stub :: rest =>
    if stub.address = symbol.value then
      match stub.symbol with
      | some other =>
        .error (.ofFault none
          (.duplicateStubSymbol symbol.value sectionIndex other.name symbol.name))
      | none => .ok ({ stub with symbol := some symbol } :: rest)
    else (attach sectionIndex symbol rest).map (stub :: ·)

def place (sectionIndex : Int) (expected : SymbolKind) (symbol : Symbol) (stubs : List Stub) :
    Except ReadError (List Stub) :=
  if symbol.kind ≠ expected then
    .error (.ofFault none (.symbolTypeMismatch symbol.name sectionIndex expected symbol.kind))
  else attach sectionIndex symbol stubs

/-- The stubs after all symbols, and the number of symbols attached. -/
def correlate (sectionIndex : Int) (expected : SymbolKind) :
    List Symbol → List Stub → List Stub × Except ReadError Nat
  | [], stubs => (stubs, .ok 0)
  | symbol :: rest, stubs =>
    if isRelevant sectionIndex symbol then
      match place sectionIndex expected symbol stubs with
      | .error e => (stubs, .error e)
      | .ok stubs =>
        let (stubs, result) := correlate sectionIndex expected rest stubs
        (stubs, result.map (· + 1))
    else correlate sectionIndex expected rest stubs

end ImportStubs.Correlation
