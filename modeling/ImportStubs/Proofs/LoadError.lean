import ImportStubs.LoadError
import ImportStubs.Proofs.Number.LongNumeral

/-!
# Faults that can be told

A fault is told unless it shows a number that is too long. Numbers of 32 bits, such as those that
stand in a binary, never are.
-/

namespace ImportStubs

/-- A number of 32 bits. -/
def IsWord (n : Int) : Prop := 0 ≤ n ∧ n < 0x100000000

theorem isWord_natCast {n : ℕ} (h : n < 0x100000000) : IsWord n :=
  ⟨Int.natCast_nonneg n, by omega⟩

theorem IsWord.isShowable {n : Int} (h : IsWord n) : Numeral.isShowable n = true := by
  obtain ⟨hnonneg, hlt⟩ := h
  have hsize : n.natAbs < 10 ^ 10 := by omega
  exact Numeral.isShowable_of_natAbs_lt hsize (by decide)

namespace ReadError

variable {cause : LoadFault}

theorem ofFault_of_isShowable (h : cause.isShowable = true) (path : Option Text) :
    ofFault path cause = .load ⟨cause, path⟩ := if_pos h

theorem ofFault_of_not_isShowable (h : cause.isShowable = false) (path : Option Text) :
    ofFault path cause = .longNumber := if_neg (by simp [h])

end ReadError
end ImportStubs
