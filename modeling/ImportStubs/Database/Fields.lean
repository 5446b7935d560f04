import ImportStubs.Database.Entity
import ImportStubs.Validation

/-!
# Entities from fields

The entities of a database can be built one by one from named fields. Unknown fields are ignored.
-/

namespace ImportStubs

open Validation

private def nidField (members : List (Text × Value)) : Checked Int :=
  required "nid" (integerIn 0 0xFFFFFFFF) members

def Export.ofFields (members : List (Text × Value)) : Checked Export :=
  Export.mk <$> required "name" text members <*> nidField members

private def exportsField (name : Text) (members : List (Text × Value)) :
    Checked (List (Int × Export)) :=
  optional name [] (keyed (entity Export.ofFields)) members

def Module.ofFields (members : List (Text × Value)) : Checked Module :=
  Module.mk <$> required "name" text members <*> nidField members <*>
    optional "kernel" false boolean members <*> exportsField "functions" members <*>
    exportsField "variables" members

def Library.ofFields (members : List (Text × Value)) : Checked Library :=
  Library.mk <$> required "name" text members <*> nidField members <*>
    optional "modules" [] (keyed (entity Module.ofFields)) members

private def intTable {α : Type} (fields : α → List (Text × Value)) (entries : List (Int × α)) :
    Value :=
  .table (entries.map fun e => (Text.ofInt e.1, .table (fields e.2)))

/-- The fields of an entity as a document; the keys of contained entities become texts. -/
def Export.toFields (x : Export) : List (Text × Value) :=
  [("name", .text x.name), ("nid", .int x.nid)]

def Module.toFields (m : Module) : List (Text × Value) :=
  [("name", .text m.name), ("nid", .int m.nid), ("kernel", .bool m.kernel),
    ("functions", intTable Export.toFields m.functions),
    ("variables", intTable Export.toFields m.vars)]

def Library.toFields (l : Library) : List (Text × Value) :=
  [("name", .text l.name), ("nid", .int l.nid), ("modules", intTable Module.toFields l.modules)]

end ImportStubs
