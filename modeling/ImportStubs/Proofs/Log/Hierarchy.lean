import ImportStubs.Log.Threshold
import Mathlib.Data.List.TakeWhile

/-!
# The threshold of a logger without one

Dots in the names of loggers make a tree. A logger without a threshold has that of the nearest
logger above it which has one, and at the root of the tree there is always one.
-/

namespace ImportStubs.Log

/-- The sign between the parts of a name. -/
def dot : CodePoint := .char '.'

theorem above?_of_notMem {name : Text} (h : dot ∉ name) : above? name = none := by
  have hall : name.reverse.dropWhile (· ≠ dot) = [] := by
    rw [List.dropWhile_eq_nil_iff]
    intro c hc
    rw [decide_eq_true_eq]
    rintro rfl
    exact h (List.mem_reverse.mp hc)
  unfold above?
  change (if ((name.reverse.dropWhile (· ≠ dot)).drop 1).isEmpty then none else _) = _
  rw [hall]
  rfl

theorem above?_append {above last : Text} (hlast : dot ∉ last) (hne : above ≠ []) :
    above? (above ++ dot :: last) = some above := by
  have hdropped : (above ++ dot :: last).reverse.dropWhile (· ≠ dot) = dot :: above.reverse := by
    rw [List.reverse_append, List.reverse_cons, List.append_assoc, List.dropWhile_append_of_pos]
    · simp
    · intro c hc
      rw [decide_eq_true_eq]
      rintro rfl
      exact hlast (List.mem_reverse.mp hc)
  unfold above?
  change (if (((above ++ dot :: last).reverse.dropWhile (· ≠ dot)).drop 1).isEmpty then none
    else some (((above ++ dot :: last).reverse.dropWhile (· ≠ dot)).drop 1).reverse) = _
  rw [hdropped, List.drop_one, List.tail_cons, List.reverse_reverse, if_neg]
  simpa using hne

/-- Nothing above a name depends on its last character, unless that is a dot. -/
theorem above?_dropLast {name : Text} (h : name.getLast? ≠ some dot) :
    above? name.dropLast = above? name := by
  rcases List.eq_nil_or_concat name with rfl | ⟨front, c, rfl⟩
  · rfl
  · rw [List.concat_eq_append] at h ⊢
    have hc : c ≠ dot := by simpa using h
    unfold above?
    rw [List.dropLast_concat, List.reverse_append, List.reverse_singleton, List.singleton_append,
      List.dropWhile_cons_of_pos]
    exact decide_eq_true hc

namespace Registry

variable (r : Registry)

theorem inherited_eq (name : Text) : r.inherited name =
    match above? name with
    | none => r.root
    | some above =>
      match r.thresholds.lookup above with
      | none => r.inherited above.dropLast
      | some threshold => if threshold = 0 then r.inherited above else threshold := by
  rw [inherited]
  split
  next hnone => rw [hnone]
  next above hsome =>
    cases hlookup : r.thresholds.lookup above <;> simp only [hsome, hlookup]

theorem inherited_of_notMem {name : Text} (h : dot ∉ name) : r.inherited name = r.root := by
  rw [inherited_eq, above?_of_notMem h]

/-- The logger right above counts if it has a threshold, and else what that logger inherits. -/
theorem inherited_append {above last : Text} (hlast : dot ∉ last) (hne : above ≠ [])
    (hend : above.getLast? ≠ some dot) :
    r.inherited (above ++ dot :: last) =
      let threshold := (r.thresholds.lookup above).getD 0
      if threshold = 0 then r.inherited above else threshold := by
  have hsame : r.inherited above.dropLast = r.inherited above := by
    rw [inherited_eq, above?_dropLast hend, ← inherited_eq]
  rw [inherited_eq, above?_append hlast hne]
  dsimp only
  cases r.thresholds.lookup above with
  | none => exact hsame
  | some threshold => rfl

end Registry

-- A logger of the parser without a threshold of its own, and one of another component.
example : Registry.inherited { thresholds := [("vitalink.a", 10)] } "vitalink.a.b" = 10 ∧
    Registry.inherited { thresholds := [("vitalink.a", 10)] } "vitalink.b" = 30 := by
  decide +kernel

end ImportStubs.Log
