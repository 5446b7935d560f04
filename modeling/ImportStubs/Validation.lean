import ImportStubs.Text.Utf8
import ImportStubs.Value

/-!
# Validation of fields

The fields of a table are read with some tolerance: an integer may be written as a text, as an
integral number or as a truth value, and a truth value as a word or as zero or one. All problems of
a table are reported, in the order of the fields, each with the path to the value at fault.
-/

namespace ImportStubs

inductive Problem where
  | missing
  | textType
  | textUnicode
  | intType
  | intParsing
  | intTooLong
  | intFromFraction
  | notFinite
  | tooSmall
  | tooLarge
  | boolType
  | boolParsing
  | notMember
  | tableType
  | entityType
deriving DecidableEq, Repr

def Problem.code : Problem → String
  | missing => "missing"
  | textType => "string_type"
  | textUnicode => "string_unicode"
  | intType => "int_type"
  | intParsing => "int_parsing"
  | intTooLong => "int_parsing_size"
  | intFromFraction => "int_from_float"
  | notFinite => "finite_number"
  | tooSmall => "greater_than_equal"
  | tooLarge => "less_than_equal"
  | boolType => "bool_type"
  | boolParsing => "bool_parsing"
  | notMember => "enum"
  | tableType => "dict_type"
  | entityType => "model_type"

structure Issue where
  location : List Text
  problem : Problem
deriving DecidableEq, Repr

/-- A value, or every problem that stands against it. -/
def Checked (α : Type) := Except (List Issue) α

namespace Checked

def map {α β : Type} (f : α → β) : Checked α → Checked β
  | .ok x => .ok (f x)
  | .error issues => .error issues

/-- Applies a function to an argument and keeps the problems of both. -/
def apply {α β : Type} : Checked (α → β) → Checked α → Checked β
  | .ok f, .ok x => .ok (f x)
  | .ok _, .error issues => .error issues
  | .error issues, .ok _ => .error issues
  | .error first, .error second => .error (first ++ second)

def fail {α : Type} (problem : Problem) : Checked α := .error [⟨[], problem⟩]

/-- The same problems one step further down. -/
def under {α : Type} (key : Text) : Checked α → Checked α
  | .ok x => .ok x
  | .error issues =>
    .error (issues.map fun issue => { issue with location := key :: issue.location })

instance : Applicative Checked where
  pure x := .ok x
  map := map
  seq f x := apply f (x ())

theorem seq_eq_ok {α β : Type} {f : Checked (α → β)} {x : Checked α} {y : β} :
    f <*> x = .ok y ↔ ∃ g a, f = .ok g ∧ x = .ok a ∧ g a = y := by
  constructor
  · intro h
    cases f with
    | error issues => cases x <;> nomatch h
    | ok g =>
      cases x with
      | error issues => nomatch h
      | ok a => exact ⟨g, a, rfl, rfl, Except.ok.inj h⟩
  · rintro ⟨g, a, rfl, rfl, rfl⟩
    rfl

end Checked

namespace Validation

/-- The bounds of a 64-bit signed word, which limit the numbers converted from other forms. -/
def wordLimit : Nat := 0x8000000000000000

def text : Value → Checked Text
  | .text t => .ok t
  | _ => .fail .textType

/-- What is left when the zeros and underscores after a leading zero are dropped: the last of them
stays if no other digit follows. A minus sign also ends them. -/
def afterZeros (last : Char) : List Char → Option (List Char)
  | [] => some [last]
  | c :: rest =>
    if c = '0' ∨ c = '_' then afterZeros c rest
    else if c = '.' then some (last :: c :: rest)
    else if c.isDigit ∨ c = '-' then some (c :: rest)
    else none

def withoutZeros : List Char → Option (List Char)
  | '0' :: cs => afterZeros '0' cs
  | c :: cs => if c.isDigit then some (c :: cs) else none
  | [] => none

def withoutSign : List Char → Option (List Char)
  | '+' :: cs => withoutZeros cs
  | '-' :: cs => (withoutZeros cs).map ('-' :: ·)
  | cs => withoutZeros cs

def withoutZeroFraction (cs : List Char) : List Char :=
  match cs.dropWhile (· != '.') with
  | _ :: c :: fraction => if (c :: fraction).all (· == '0') then cs.takeWhile (· != '.') else cs
  | _ => cs

def hasDoubleUnderscore : List Char → Bool
  | '_' :: '_' :: _ => true
  | _ :: rest => hasDoubleUnderscore rest
  | [] => false

/-- Drops underscores unless they stand at an end or side by side. -/
def withoutUnderscores (cs : List Char) : List Char :=
  if cs.head? = some '_' ∨ cs.getLast? = some '_' ∨ hasDoubleUnderscore cs then cs
  else cs.filter (· != '_')

/-- Digits without a superfluous zero in front. -/
def strictMagnitude? (cs : List Char) : Option Nat :=
  if cs.isEmpty ∨ ¬ cs.all Char.isDigit ∨ (cs.head? = some '0' ∧ 1 < cs.length) then none
  else some (Numeral.ofDigits 10 (cs.map fun c => c.toNat - 0x30))

/-- The integer of strict digits after an optional minus sign; too many digits are refused, whatever
follows them. -/
def strictInteger (cs : List Char) : Checked Int :=
  let digits := match cs with
    | '-' :: digits => digits
    | digits => digits
  let signs := cs.length - digits.length
  if digits.head? ≠ some '0' ∧
    Numeral.decimalLimit < signs + (digits.takeWhile Char.isDigit).length then
    .fail .intTooLong
  else match strictMagnitude? digits with
    | some n => .ok (if signs = 0 then n else -(n : Int))
    | none => .fail .intParsing

def integerOfText (t : Text) : Checked Int :=
  match Text.toChars? t with
  | none => .fail .textUnicode
  | some _ =>
    match (Text.toChars? (Text.trimWhile Text.isBlank t)).bind withoutSign with
    | none => .fail .intParsing
    | some cs => strictInteger (withoutUnderscores (withoutZeroFraction cs))

def integer : Value → Checked Int
  | .bool b => .ok (if b then 1 else 0)
  | .int n => .ok n
  | .float x =>
    if ¬ x.isFinite then .fail .notFinite
    else match x.toInt? with
      | none => .fail .intFromFraction
      | some n => if n.natAbs < wordLimit then .ok n else .fail .intTooLong
  | .text t => integerOfText t
  | _ => .fail .intType

def integerIn (low high : Int) (v : Value) : Checked Int :=
  match integer v with
  | .error issues => .error issues
  | .ok n => if n < low then .fail .tooSmall else if high < n then .fail .tooLarge else .ok n

/-- The words for a truth value, in any ASCII case. -/
def truthWord? (t : Text) : Option Bool :=
  let t := Text.asciiLower t
  if ["1", "t", "y", "yes", "on", "true"].any (t.is ·) then some true
  else if ["0", "f", "n", "no", "off", "false"].any (t.is ·) then some false
  else none

def truthOfInteger (n : Int) : Checked Bool :=
  if n = 0 then .ok false
  else if n = 1 then .ok true
  else if -(wordLimit : Int) ≤ n ∧ n < wordLimit then .fail .boolParsing
  else .fail .boolType

def boolean : Value → Checked Bool
  | .bool b => .ok b
  | .int n => truthOfInteger n
  | .float x =>
    match x.toInt? with
    | some n => if n.natAbs < wordLimit then truthOfInteger n else .fail .boolType
    | none => .fail .boolType
  | .text t =>
    if Text.hasSurrogate t then .fail .textUnicode
    else match truthWord? t with
      | some b => .ok b
      | none => .fail .boolParsing
  | _ => .fail .boolType

/-- One of some named choices. -/
def choice {α : Type} (choices : List (String × α)) : Value → Checked α
  | .text t =>
    if Text.hasSurrogate t then .fail .textUnicode
    else match choices.find? fun c => t.is c.1 with
      | some c => .ok c.2
      | none => .fail .notMember
  | _ => .fail .notMember

def entity {α : Type} (read : List (Text × Value) → Checked α) : Value → Checked α
  | .table members => read members
  | _ => .fail .entityType

/-- Adds an entry under an integer key: a key that is present keeps its place. -/
def setKey {α : Type} (key : Int) (value : α) : List (Int × α) → List (Int × α)
  | [] => [(key, value)]
  | (k, v) :: rest => if k = key then (k, value) :: rest else (k, v) :: setKey key value rest

/-- A name as it is reported: each half of a surrogate pair shows as three replacement characters.
-/
def reportedName (name : Text) : Text :=
  name.flatMap fun c => if c.isSurrogate then List.replicate 3 (.char '\ufffd') else [c]

def keyed {α : Type} (read : Value → Checked α) : Value → Checked (List (Int × α))
  | .table members =>
    members.foldl
      (fun entries m =>
        (fun es e => setKey e.1 e.2 es) <$> entries <*>
          (Prod.mk <$> (integerOfText m.1).under "[key]" <*> read m.2).under (reportedName m.1))
      (.ok [])
  | _ => .fail .tableType

def required {α : Type} (name : Text) (check : Value → Checked α) (members : List (Text × Value)) :
    Checked α :=
  ((Value.member? name members).elim (.fail .missing) check).under name

def optional {α : Type} (name : Text) (default : α) (check : Value → Checked α)
    (members : List (Text × Value)) : Checked α :=
  ((Value.member? name members).elim (.ok default) check).under name

example : Except.toOption (integer (.text "+007.00")) = some 7 := by decide
example : Except.toOption (integer (.text "1__0")) = none := by decide
example : Except.toOption (integer (.text "0-_1")) = some (-1) := by decide

end Validation
end ImportStubs
