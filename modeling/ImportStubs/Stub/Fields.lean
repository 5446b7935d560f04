import ImportStubs.Database.Fields
import ImportStubs.Stub

/-!
# Symbols and stubs from fields

A symbol or stub can be built from named fields; absent ones take their defaults. A stub's entities
are tables of fields, and anything else stands for itself.
-/

namespace ImportStubs

open Validation

def SymbolKind.choices : List (String × SymbolKind) := SymbolKind.all.map fun k => (k.name, k)

def SymbolBinding.choices : List (String × SymbolBinding) :=
  SymbolBinding.all.map fun b => (b.name, b)

private def number (name : Text) (members : List (Text × Value)) : Checked Int :=
  optional name 0 integer members

def Symbol.ofFields (members : List (Text × Value)) : Checked Symbol :=
  Symbol.mk <$> number "index" members <*> optional "name" [] text members <*>
    number "value" members <*> optional "kind" .other (choice SymbolKind.choices) members <*>
    optional "binding" .localBinding (choice SymbolBinding.choices) members <*>
    number "section_index" members <*> number "raw_type" members <*>
    number "raw_binding" members

def StubKind.choices : List (String × StubKind) :=
  [("function", .functionStub), ("variable", .variableStub)]

/-- The numbers of a stub; nothing is attached to it. -/
def Stub.ofFields (members : List (Text × Value)) : Checked Stub :=
  (fun kind address libraryNid moduleNid targetNid =>
      { kind, address, libraryNid, moduleNid, targetNid }) <$>
    required "kind" (choice StubKind.choices) members <*> number "address" members <*>
    number "library_nid" members <*> number "module_nid" members <*>
    number "target_nid" members

end ImportStubs
