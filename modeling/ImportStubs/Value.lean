import ImportStubs.Moment
import ImportStubs.Number.Binary64.Shortest
import ImportStubs.Number.Numeral
import ImportStubs.Text.Quoted

/-!
# Document values

A value is what a JSON or TOML document can hold; JSON has no moments and TOML no null. Integers are
unbounded and differ from floating-point numbers of the same size. A table keeps its members in
order of first appearance.

`literal` is the notation of a value inside a message. It exists for every value, but a value that
holds an integer beyond the decimal limit is refused before it is shown, which is `isShowable`. The
depth of a value does not count.
-/

namespace ImportStubs

inductive Value where
  | null
  | bool (b : Bool)
  | int (n : Int)
  | float (x : Binary64)
  | text (t : Text)
  | moment (m : Moment)
  | list (items : List Value)
  | table (members : List (Text × Value))
deriving Inhabited

namespace Value

/-- A member by its name. -/
def member? (name : Text) (members : List (Text × Value)) : Option Value := members.lookup name

/-- Sets a member: a name that is present keeps its place, another one goes to the end. -/
def setMember (name : Text) (value : Value) : List (Text × Value) → List (Text × Value)
  | [] => [(name, value)]
  | (n, v) :: rest => if n = name then (n, value) :: rest else (n, v) :: setMember name value rest

theorem lookup_setMember (name other : Text) (value : Value) (members : List (Text × Value)) :
    (setMember name value members).lookup other =
      if other = name then some value else members.lookup other := by
  induction members with
  | nil =>
    by_cases h : other = name
    · simp [setMember, h]
    · simp [setMember, List.lookup_cons, h, beq_false_of_ne h]
  | cons m rest ih =>
    obtain ⟨n, v⟩ := m
    by_cases hn : n = name
    · subst hn
      by_cases ho : other = n
      · simp [setMember, ho]
      · simp [setMember, List.lookup_cons, ho, beq_false_of_ne ho]
    · by_cases ho : other = name
      · subst ho
        simp [setMember, hn, List.lookup_cons, beq_false_of_ne (Ne.symm hn), ih]
      · simp [setMember, hn, List.lookup_cons, ih, ho]

mutual

/-- Equality as it is tested, member by member. -/
def same : Value → Value → Bool
  | null, null => true
  | bool b, bool c => b = c
  | int m, int n => m = n
  | float x, float y => x = y
  | text t, text u => t = u
  | moment m, moment n => m = n
  | list items, list others => sameItems items others
  | table members, table others => sameMembers members others
  | _, _ => false

def sameItems : List Value → List Value → Bool
  | [], [] => true
  | v :: rest, w :: others => same v w && sameItems rest others
  | _, _ => false

def sameMembers : List (Text × Value) → List (Text × Value) → Bool
  | [], [] => true
  | (name, v) :: rest, (other, w) :: others =>
    name = other && same v w && sameMembers rest others
  | _, _ => false

end

mutual

theorem same_iff (v w : Value) : same v w = true ↔ v = w := by
  cases v with
  | list items => cases w <;> simp [same, sameItems_iff items]
  | table members => cases w <;> simp [same, sameMembers_iff members]
  | _ => cases w <;> simp [same]

theorem sameItems_iff (items others : List Value) :
    sameItems items others = true ↔ items = others := by
  cases items with
  | nil => cases others <;> simp [sameItems]
  | cons v rest => cases others <;> simp [sameItems, same_iff v, sameItems_iff rest]

theorem sameMembers_iff (members others : List (Text × Value)) :
    sameMembers members others = true ↔ members = others := by
  cases members with
  | nil => cases others <;> simp [sameMembers]
  | cons m rest =>
    cases m
    cases others <;> simp [sameMembers, same_iff, sameMembers_iff rest, Prod.ext_iff]

end

instance : DecidableEq Value := fun v w => decidable_of_iff _ (same_iff v w)

mutual

def isShowable : Value → Bool
  | int n => Numeral.isShowable n
  | list items => allShowable items
  | table members => membersShowable members
  | _ => true

def allShowable : List Value → Bool
  | [] => true
  | v :: rest => isShowable v && allShowable rest

def membersShowable : List (Text × Value) → Bool
  | [] => true
  | (_, v) :: rest => isShowable v && membersShowable rest

end

mutual

def literal : Value → Text
  | null => "None"
  | bool b => if b then "True" else "False"
  | int n => Text.ofInt n
  | float x => x.toText
  | text t => Text.Quoted.quote t
  | moment m => m.literal
  | list items => "[" ++ Text.join ", " (literals items) ++ "]"
  | table members => "\x7b" ++ Text.join ", " (memberLiterals members) ++ "\x7d"

def literals : List Value → List Text
  | [] => []
  | v :: rest => literal v :: literals rest

def memberLiterals : List (Text × Value) → List Text
  | [] => []
  | (name, v) :: rest => (Text.Quoted.quote name ++ ": " ++ literal v) :: memberLiterals rest

end

/-- The value as plain text: a text is itself, and anything else is its literal. -/
def plain : Value → Text
  | text t => t
  | v => literal v

/-- What a condition makes of a value: empty, zero and absent count as false. -/
def isTruthy : Value → Bool
  | null => false
  | bool b => b
  | int n => n != 0
  | float x => match x with
    | .finite _ significand _ => significand != 0
    | _ => true
  | text t => !t.isEmpty
  | moment _ => true
  | list items => !items.isEmpty
  | table members => !members.isEmpty

end Value
end ImportStubs
