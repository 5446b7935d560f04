import ImportStubs.Text

/-!
# Symbols

A symbol-table entry, with its type and binding reduced to what naming a stub needs. The low four
bits of the info byte are the type and the bits above them the binding.
-/

namespace ImportStubs

inductive SymbolKind where
  | function
  | object
  | other
deriving DecidableEq, Repr, Inhabited

inductive SymbolBinding where
  | globalBinding
  | localBinding
  | weakBinding
  | other
deriving DecidableEq, Repr, Inhabited

namespace SymbolKind

def name : SymbolKind → String
  | function => "function"
  | object => "object"
  | other => "other"

def all : List SymbolKind := [function, object, other]

def ofType (type : Int) : SymbolKind :=
  if type = 1 then object else if type = 2 then function else other

def ofInfo (info : Int) : SymbolKind := ofType (info % 16)

end SymbolKind

namespace SymbolBinding

def name : SymbolBinding → String
  | globalBinding => "global"
  | localBinding => "local"
  | weakBinding => "weak"
  | other => "other"

def all : List SymbolBinding := [globalBinding, localBinding, weakBinding, other]

def ofNumber (binding : Int) : SymbolBinding :=
  if binding = 0 then localBinding
  else if binding = 1 then globalBinding
  else if binding = 2 then weakBinding
  else other

def ofInfo (info : Int) : SymbolBinding := ofNumber (info / 16)

end SymbolBinding

/-- The default values are those of an entry that is not decoded. -/
structure Symbol where
  index : Int := 0
  name : Text := []
  value : Int := 0
  kind : SymbolKind := .other
  binding : SymbolBinding := .localBinding
  sectionIndex : Int := 0
  rawType : Int := 0
  rawBinding : Int := 0
deriving DecidableEq, Repr, Inhabited

/-- The entry kept in place of a local symbol, or of one that has not been read. -/
def Symbol.placeholder (index : Nat) : Symbol := { index := index }

end ImportStubs
