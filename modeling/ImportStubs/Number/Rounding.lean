/-!
# Rounding a quotient

A quotient of naturals rounds to the nearest integer, and a quotient halfway between two goes to the
even one.
-/

namespace ImportStubs

def roundQuotient (num den : Nat) : Nat :=
  let q := num / den
  let r := num % den
  if 2 * r < den ∨ (2 * r = den ∧ q % 2 = 0) then q else q + 1

/-- The result is at most half a unit away. -/
theorem roundQuotient_near (num den : Nat) (h : 0 < den) :
    2 * num ≤ 2 * (roundQuotient num den * den) + den ∧
      2 * (roundQuotient num den * den) ≤ 2 * num + den := by
  have hdiv := Nat.div_add_mod num den
  have hmod := Nat.mod_lt num h
  rw [Nat.mul_comm] at hdiv
  unfold roundQuotient
  simp only
  split
  · omega
  · rw [Nat.add_mul]
    omega

end ImportStubs
