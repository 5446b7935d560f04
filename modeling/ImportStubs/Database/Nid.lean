import ImportStubs.Database.Error

/-!
# NIDs

A NID is a 32-bit number. A descriptor gives it as an integer or as a text that spells one; any
other value is refused, and so is a number out of range. A refused text is shown as it stands, a
number as a number.
-/

namespace ImportStubs.Nid

def limit : Int := 0x100000000

def refuse (what : Text) (v : Value) : DatabaseError :=
  if v.isShowable then .invalidNid what v else .unshowableNid

def ofInt (what : Text) (n : Int) : Except DatabaseError Int :=
  if 0 ≤ n ∧ n < limit then .ok n else .error (refuse what (.int n))

/-- The NID that a value gives for something. -/
def read (what : Text) : Value → Except DatabaseError Int
  | .int n => ofInt what n
  | .text t =>
    match Numeral.parse? t with
    | some n => ofInt what n
    | none => .error (refuse what (.text t))
  | v => .error (refuse what v)

end ImportStubs.Nid
