import ImportStubs.Toml.Quoted
import ImportStubs.Value

/-!
# Documents under construction

Statements of a document create tables along their keys and set values in them. A table may be
opened by one header only, a value that is written as one piece is closed for all that comes later,
and tables that dotted keys created cannot be opened by a later header.
-/

namespace ImportStubs.Toml

abbrev Members := List (Text × Value)

/-- Changes the table at a key, creating tables on the way. Where the way leads to a list of tables,
its last one is meant if `intoLists` holds; any other value blocks the way. -/
def updateAt (intoLists : Bool) (change : Members → Option Members) : Key → Members → Option Members
  | [], members => change members
  | part :: key, members =>
    match members.lookup part with
    | none => (updateAt intoLists change key []).map fun inner => members ++ [(part, .table inner)]
    | some (.table inner) =>
      (updateAt intoLists change key inner).map fun inner =>
        Value.setMember part (.table inner) members
    | some (.list items) =>
      match intoLists, items.getLast? with
      | true, some (.table inner) =>
        (updateAt intoLists change key inner).map fun inner =>
          Value.setMember part (.list (items.dropLast ++ [.table inner])) members
      | _, _ => none
    | some _ => none

def insertNew (name : Text) (v : Value) (members : Members) : Option Members :=
  if (members.lookup name).isSome then none else some (members ++ [(name, v)])

def appendTable (name : Text) (members : Members) : Option Members :=
  match members.lookup name with
  | none => some (members ++ [(name, .list [.table []])])
  | some (.list items) => some (Value.setMember name (.list (items ++ [.table []])) members)
  | some _ => none

/-- A value that later statements may not extend. -/
def isPiece : Value → Bool
  | .table _ | .list _ => true
  | _ => false

structure Document where
  members : Members := []
  /-- The key of the header under which assignments stand. -/
  header : Key := []
  /-- Tables that no header may open again. -/
  opened : List Key := []
  /-- Tables that become `opened` with the next header. -/
  pending : List Key := []
  /-- Values written as one piece. -/
  closed : List Key := []
deriving Inhabited

namespace Document

def isClosed (closed : List Key) (key : Key) : Bool := closed.any (·.isPrefixOf key)

def openTable (key : Key) (d : Document) : Option Document :=
  let opened := d.opened ++ d.pending
  if key ∈ opened ∨ isClosed d.closed key then none
  else (updateAt true some key d.members).map fun members =>
    { d with members, header := key, opened := opened ++ [key], pending := [] }

/-- Opens the next table of a list; what is known of the tables in the one before is void. -/
def openItem (key : Key) (d : Document) : Option Document :=
  if isClosed d.closed key then none
  else
    let opened := (d.opened ++ d.pending).filter fun k => !key.isPrefixOf k
    (updateAt true (appendTable (key.getLastD [])) key.dropLast d.members).map fun members =>
      { d with
        members, header := key, opened := opened ++ [key], pending := []
        closed := d.closed.filter fun k => !key.isPrefixOf k }

def passed (header key : Key) : List Key :=
  (List.range (key.length - 1)).map fun i => header ++ key.take (i + 1)

def assign (key : Key) (v : Value) (d : Document) : Option Document :=
  let passed := passed d.header key
  let parent := d.header ++ key.dropLast
  if (passed.any (· ∈ d.opened)) ∨ isClosed d.closed parent then none
  else (updateAt true (insertNew (key.getLastD []) v) parent d.members).map fun members =>
    { d with
      members, pending := d.pending ++ passed
      closed := if isPiece v then d.closed ++ [d.header ++ key] else d.closed }

end Document

/-- An inline table under construction; `closed` are the values in it that are complete. -/
structure InlineTable where
  members : Members := []
  closed : List Key := []
deriving Inhabited

def InlineTable.assign (key : Key) (v : Value) (t : InlineTable) : Option InlineTable :=
  if Document.isClosed t.closed key then none
  else (updateAt false (insertNew (key.getLastD []) v) key.dropLast t.members).map fun members =>
    { members, closed := if isPiece v then t.closed ++ [key] else t.closed }

end ImportStubs.Toml
