import ImportStubs.Number.Numeral
import Mathlib.Tactic.NormNum

/-!
# Long numerals

The limit on decimal digits does not hold for the digits of another radix: a one and any number of
zeros after the mark for radix sixteen spell a power of sixteen. So a numeral can be read although
its number is too long to be shown.
-/

namespace ImportStubs.Numeral

/-- A one and some zeros after the mark for radix sixteen. -/
def hexPower (n : ℕ) : List Char := '0' :: 'x' :: '1' :: List.replicate n '0'

theorem digitRun?_zeros {c : Char} {d : ℕ} (hdigit : digitValue? 16 c = some d) (n : ℕ) :
    digitRun? 16 (c :: List.replicate n '0') = some (d :: List.replicate n 0) := by
  induction n generalizing c d with
  | zero => simp [digitRun?, hdigit]
  | succ n ih =>
    have hzeros : digitRun? 16 ('0' :: List.replicate n '0') = some (0 :: List.replicate n 0) :=
      ih rfl
    rw [List.replicate_succ, List.replicate_succ, digitRun?, hdigit, hzeros]
    · rfl
    · simp
    · simp

theorem ofDigits_zeros (d n : ℕ) : ofDigits 16 (d :: List.replicate n 0) = d * 16 ^ n := by
  have hfold : ∀ start : ℕ, (List.replicate n 0).foldl (fun m d => m * 16 + d) start =
      start * 16 ^ n := by
    induction n with
    | zero => simp
    | succ n ih =>
      intro start
      rw [List.replicate_succ, List.foldl_cons, ih, Nat.add_zero, Nat.pow_succ', Nat.mul_assoc]
  simpa [ofDigits] using hfold d

theorem map_plain_hexPower (n : ℕ) : (Text.ofChars (hexPower n)).map plain = hexPower n := by
  have hzero : plain (.char '0') = '0' := rfl
  have hmark : plain (.char 'x') = 'x' := rfl
  have hone : plain (.char '1') = '1' := rfl
  simp only [Text.ofChars, hexPower, List.map_cons, List.map_replicate, hzero, hmark, hone]

theorem trim_hexPower (n : ℕ) : trim (hexPower n) = hexPower n := by
  have hfront : (hexPower n).dropWhile isBlank = hexPower n := rfl
  have hback : (hexPower n).reverse.dropWhile isBlank = (hexPower n).reverse := by
    cases n with
    | zero => rfl
    | succ n =>
      rw [hexPower, List.reverse_cons, List.reverse_cons, List.reverse_cons, List.reverse_replicate]
      rfl
  rw [trim, hfront, hback, List.reverse_reverse]

theorem parse?_hexPower (n : ℕ) : parse? (Text.ofChars (hexPower n)) = some (16 ^ n : ℕ) := by
  have hradix : radixOfMark? 'x' = some 16 := rfl
  have hrun : digitRun? 16 (dropUnderscore ('1' :: List.replicate n '0')) =
      some (1 :: List.replicate n 0) := digitRun?_zeros rfl n
  have hmagnitude : magnitude? (hexPower n) = some (16 ^ n) := by
    rw [hexPower, magnitude?, hradix]
    dsimp only
    rw [hrun, Option.map_some, ofDigits_zeros, Nat.one_mul]
  have hsign : signed? magnitude? (hexPower n) = (magnitude? (hexPower n)).map Int.ofNat := rfl
  rw [parse?, map_plain_hexPower, trim_hexPower, hsign, hmagnitude]
  rfl

theorem isShowable_of_natAbs_lt {n : Int} {places : ℕ} (hsize : n.natAbs < 10 ^ places)
    (hplaces : places ≤ decimalLimit) : isShowable n = true := by
  rw [isShowable, decide_eq_true_eq, Nat.pow_eq]
  generalize decimalLimit = limit at hplaces ⊢
  exact Nat.lt_of_lt_of_le hsize (Nat.pow_le_pow_right (by decide) hplaces)

theorem isShowable_eq_false_iff {n : Int} :
    isShowable n = false ↔ 10 ^ decimalLimit ≤ n.natAbs := by
  rw [isShowable, Nat.pow_eq, decide_eq_false_iff_not, Nat.not_lt]

/-- Forty-three decimal digits for every thirty-six zeros. -/
theorem isShowable_hexPower : isShowable (16 ^ 3600 : ℕ) = false := by
  have hlimit : decimalLimit = 43 * 100 := rfl
  have hzeros : 3600 = 36 * 100 := rfl
  rw [isShowable_eq_false_iff, Int.natAbs_natCast, hlimit, hzeros, Nat.pow_mul, Nat.pow_mul]
  exact Nat.pow_le_pow_left (by norm_num) 100

end ImportStubs.Numeral
