import ImportStubs.Proofs.Json.LongNumber
import ImportStubs.Proofs.Json.Plain
import Mathlib.Data.Nat.Digits.Defs
import Mathlib.Tactic.IntervalCases

/-!
# Integers in a JSON document

The decimal notation of an integer is read as this integer, unless it goes on or has more digits
than are read.
-/

namespace ImportStubs.Json

/-- What can follow a value: nothing, a blank, a comma or a closing bracket. -/
def Ends (rest : List Char) : Prop := ∀ c ∈ rest.head?, isBlank c ∨ c = ',' ∨ c = ']' ∨ c = '\x7d'

theorem ends_nil : Ends [] := by
  rintro c ⟨⟩

theorem ends_cons {c : Char} {rest : List Char} (h : isBlank c ∨ c = ',' ∨ c = ']' ∨ c = '\x7d') :
    Ends (c :: rest) := by
  rintro d ⟨⟩
  exact h

/-- None of these goes on with a number. -/
theorem Ends.head_ne {rest : List Char} (h : Ends rest) :
    ∀ c ∈ rest.head?, isDigit c = false ∧ c ≠ '.' ∧ c ≠ 'e' ∧ c ≠ 'E' := by
  intro c hc
  have hkinds := h c hc
  simp only [isBlank, Bool.or_eq_true, beq_iff_eq, or_assoc] at hkinds
  rcases hkinds with rfl | rfl | rfl | rfl | rfl | rfl | rfl <;> decide

theorem fractionPart_of_ends {rest : List Char} (h : Ends rest) :
    fractionPart rest = ([], rest) := by
  unfold fractionPart
  split
  · exact absurd rfl (h.head_ne _ rfl).2.1
  · rfl

theorem exponentPart_of_ends {rest : List Char} (h : Ends rest) :
    exponentPart rest = (none, rest) := by
  cases rest with
  | nil => rfl
  | cons c rest =>
    obtain ⟨-, -, hlower, hupper⟩ := h.head_ne c rfl
    exact if_neg (not_or.mpr ⟨hlower, hupper⟩)

theorem isDigit_toDigits (n : ℕ) : ∀ c ∈ Nat.toDigits 10 n, isDigit c = true := by
  intro c hc
  have hdigit := Nat.isDigit_of_mem_toDigits (by decide) (by decide) hc
  simpa [isDigit, Char.isDigit, Char.le_def] using hdigit

theorem natOf_toDigits (n : ℕ) : natOf (Nat.toDigits 10 n) = n := by
  have hsame : natOf (Nat.toDigits 10 n) = Nat.ofDigitChars 10 (Nat.toDigits 10 n) 0 := by
    simp only [natOf, Nat.ofDigitChars, Nat.mul_comm 10]
    rfl
  rw [hsame, Nat.ofDigitChars_toDigits (by decide) (by decide)]

/-- Only zero starts with a zero. -/
theorem head?_toDigits {n : ℕ} (h : n ≠ 0) : (Nat.toDigits 10 n).head? ≠ some '0' := by
  induction n using Nat.strong_induction_on with
  | _ n ih =>
    by_cases hsmall : n < 10
    · rw [Nat.toDigits_of_lt_base hsmall]
      interval_cases n
      · exact absurd rfl h
      all_goals decide
    · have hrest := ih (n / 10) (by omega) (by omega)
      rw [Nat.toDigits_of_base_le (by decide) (by omega)]
      rcases hdigits : Nat.toDigits 10 (n / 10) with _ | ⟨c, cs⟩
      · exact absurd hdigits Nat.toDigits_ne_nil
      · rwa [hdigits] at hrest

theorem integerPart_toDigits (n : ℕ) {rest : List Char} (h : Ends rest) :
    integerPart (Nat.toDigits 10 n ++ rest) = some (Nat.toDigits 10 n, rest) := by
  by_cases hzero : n = 0
  · subst hzero
    rfl
  · exact integerPart_append Nat.toDigits_ne_nil (isDigit_toDigits n) (head?_toDigits hzero)
      fun c hc => (h.head_ne c hc).1

theorem length_toDigits_le {n places : ℕ} (hpos : 0 < places) (h : n < Nat.pow 10 places) :
    (Nat.toDigits 10 n).length ≤ places := by
  rw [Nat.pow_eq] at h
  exact Nat.toDigits_length 10 n places hpos h

theorem readMagnitude_toDigits {n : ℕ} (hshown : n < Nat.pow 10 Numeral.decimalLimit)
    (negative : Bool) {rest : List Char} (h : Ends rest) :
    readMagnitude negative (Nat.toDigits 10 n ++ rest) =
      .ok (.int (if negative then -(n : Int) else n), rest) := by
  rw [readMagnitude, integerPart_toDigits n h]
  dsimp only
  rw [fractionPart_of_ends h]
  dsimp only
  rw [exponentPart_of_ends h, natOf_toDigits]
  exact (if_pos ⟨rfl, rfl⟩).trans (if_pos (length_toDigits_le (by decide) hshown))

theorem starts_number {c : Char} {cs rest : List Char} {v : Value} (hc : c ∉ otherStarts)
    (h : readNumber (c :: cs) = .ok (v, rest)) : Starts (c :: cs) v rest :=
  bare_eq_ok_iff.mp ((bare_readValue_number hc).trans h)

theorem exists_starts_int {n : Int} (hshown : (Value.int n).isShowable) :
    ∃ cs, Text.ofInt n = Text.ofChars cs ∧
      ∀ rest, Ends rest → Starts (cs ++ rest) (.int n) rest := by
  rw [Value.isShowable, Numeral.isShowable, decide_eq_true_eq] at hshown
  cases n with
  | ofNat n =>
    refine ⟨Nat.toDigits 10 n, rfl, fun rest hrest => ?_⟩
    have hread : readMagnitude false (Nat.toDigits 10 n ++ rest) = .ok (.int n, rest) :=
      readMagnitude_toDigits hshown false hrest
    rcases hdigits : Nat.toDigits 10 n with _ | ⟨c, cs⟩
    · exact absurd hdigits Nat.toDigits_ne_nil
    · have hc : isDigit c = true := isDigit_toDigits n c (hdigits ▸ List.mem_cons_self ..)
      rw [hdigits] at hread
      exact starts_number (notMem_otherStarts (.inr hc)) ((readNumber_digit hc _).trans hread)
  | negSucc n =>
    refine ⟨'-' :: Nat.toDigits 10 (n + 1), rfl, fun rest hrest => ?_⟩
    have hread : readMagnitude true (Nat.toDigits 10 (n + 1) ++ rest) =
        .ok (.int (.negSucc n), rest) := readMagnitude_toDigits hshown true hrest
    rcases hdigits : Nat.toDigits 10 (n + 1) with _ | ⟨c, cs⟩
    · exact absurd hdigits Nat.toDigits_ne_nil
    · have hc : isDigit c = true := isDigit_toDigits (n + 1) c (hdigits ▸ List.mem_cons_self ..)
      rw [hdigits] at hread
      exact starts_number (notMem_otherStarts (.inl rfl)) ((readNumber_minus hc _).trans hread)

end ImportStubs.Json
