import ImportStubs.Json.Writer
import ImportStubs.Proofs.Json.Plain
import Mathlib.Tactic.IntervalCases

/-!
# Escaped texts in a JSON document

A document in ASCII holds any text: what is no ASCII character is escaped, a character above U+FFFF
as its two halves. Read again, the halves are joined, so a text comes back with its surrogate pairs
joined, and as it was if there are none.
-/

namespace ImportStubs.Json

theorem digitValue?_hexDigit {d : ℕ} (h : d < 16) :
    Numeral.digitValue? 16 (Text.Quoted.hexDigit d) = some d := by
  interval_cases d <;> rfl

theorem hexDigits_four (n : ℕ) : Text.Quoted.hexDigits 4 n =
    [Text.Quoted.hexDigit (n / 16 / 16 / 16 % 16), Text.Quoted.hexDigit (n / 16 / 16 % 16),
      Text.Quoted.hexDigit (n / 16 % 16), Text.Quoted.hexDigit (n % 16)] := rfl

theorem hex4?_hexDigits {n : ℕ} (h : n < 0x10000) :
    hex4? (Text.Quoted.hexDigit (n / 16 / 16 / 16 % 16)) (Text.Quoted.hexDigit (n / 16 / 16 % 16))
        (Text.Quoted.hexDigit (n / 16 % 16)) (Text.Quoted.hexDigit (n % 16)) =
      CodePoint.ofNat? n := by
  have hdigit : ∀ m : ℕ, Numeral.digitValue? 16 (Text.Quoted.hexDigit (m % 16)) = some (m % 16) :=
    fun m => digitValue?_hexDigit (Nat.mod_lt m (by decide))
  have hdigits : Numeral.ofDigits 16
      [n / 16 / 16 / 16 % 16, n / 16 / 16 % 16, n / 16 % 16, n % 16] = n := by
    simp only [Numeral.ofDigits, List.foldl_cons, List.foldl_nil]
    omega
  simp only [hex4?, List.mapM_cons, List.mapM_nil, hdigit, Option.bind_eq_bind, Option.bind_some,
    Option.pure_def, hdigits]

theorem ofNat?_toNat (c : Char) : CodePoint.ofNat? c.toNat = some (.char c) := by
  have hvalid : c.toNat.isValidChar := c.valid
  rw [CodePoint.ofNat?, dif_pos hvalid]
  rfl

theorem ofNat?_surrogate {n : ℕ} (h : n < 0x800) :
    CodePoint.ofNat? (0xD800 + n) = some (.surrogate ⟨n, h⟩) := by
  have hinvalid : ¬(0xD800 + n).isValidChar := by
    simp only [Nat.isValidChar]
    omega
  rw [CodePoint.ofNat?, dif_neg hinvalid, dif_pos (by omega)]
  simp

/-- What is read for an escape or a plain character, with the string after it. -/
def Prepends (cs : List Char) (t : Text) : Prop :=
  ∀ rest, stringBody (cs ++ rest) = (stringBody rest).map fun found => (t ++ found.1, found.2)

theorem prepends_nil : Prepends [] [] := by
  intro rest
  cases h : stringBody rest <;> simp [h]

theorem Prepends.append {cs cs' : List Char} {t t' : Text} (h : Prepends cs t)
    (h' : Prepends cs' t') : Prepends (cs ++ cs') (t ++ t') := by
  intro rest
  rw [List.append_assoc, h, h', Option.map_map]
  simp only [Function.comp_def, List.append_assoc]

theorem prepends_escapeUnit {n : ℕ} (h : n < 0x10000) {c : CodePoint}
    (hc : CodePoint.ofNat? n = some c) : Prepends (escapeUnit n) [c] := by
  intro rest
  rw [escapeUnit, hexDigits_four]
  simp only [List.cons_append, List.nil_append]
  rw [stringBody, hex4?_hexDigits h, hc]
  cases stringBody rest <;> rfl

theorem toNat_lt_of_shortEscape {c e : Char} (h : shortEscape? c = some e) :
    c.toNat < 0x10000 := by
  unfold shortEscape? at h
  split_ifs at h with h1 h2 h3 h4 h5 h6
  · rw [h1]; decide
  · rw [h2]; decide
  · rw [h3]; decide
  · rw [h4]; decide
  · rw [h5]; decide
  · rcases h6 with rfl | rfl <;> decide

theorem isPlain_of_shortEscape {c : Char} (h : shortEscape? c = none) (hle : 0x20 ≤ c.toNat) :
    IsPlain c := by
  refine ⟨hle, ?_, ?_⟩ <;>
  · rintro rfl
    cases h

theorem prepends_shortEscape {c e : Char} (h : shortEscape? c = some e) :
    Prepends ['\\', e] [.char c] := by
  have hletter : e ≠ 'u' ∧ simpleEscape? e = some c := by
    unfold shortEscape? at h
    split_ifs at h with h1 h2 h3 h4 h5 h6
    all_goals
      cases h
    · exact ⟨by decide, by rw [h1]; rfl⟩
    · exact ⟨by decide, by rw [h2]; rfl⟩
    · exact ⟨by decide, by rw [h3]; rfl⟩
    · exact ⟨by decide, by rw [h4]; rfl⟩
    · exact ⟨by decide, by rw [h5]; rfl⟩
    · rcases h6 with rfl | rfl <;> exact ⟨by decide, rfl⟩
  intro rest
  simp only [List.cons_append, List.nil_append]
  rw [stringBody.eq_def]
  split
  · cases ‹_›
  · cases ‹_›
  next heq => exact absurd (List.cons.inj (List.cons.inj heq).2).1 hletter.1
  next heq =>
    obtain ⟨rfl, rfl⟩ := List.cons.inj (List.cons.inj heq).2
    rw [hletter.2]
    cases stringBody rest <;> rfl
  next hescape heq =>
    obtain ⟨hbackslash, hrest⟩ := List.cons.inj heq
    exact absurd hrest.symm (hescape _ _ hbackslash.symm)

theorem prepends_plain {c : Char} (h : IsPlain c) : Prepends [c] [.char c] := stringBody_cons h

/-- The surrogate with a number. -/
def half (n : ℕ) : Fin 0x800 := ⟨n % 0x800, Nat.mod_lt n (by decide)⟩

/-- What is read for the escapes of a code point: a character above U+FFFF has two. -/
def halves : CodePoint → Text
  | .surrogate i => [.surrogate i]
  | .char c =>
    if c.toNat < 0x10000 then [.char c]
    else
      [.surrogate (half ((c.toNat - 0x10000) / 0x400)),
        .surrogate (half (0x400 + (c.toNat - 0x10000) % 0x400))]

theorem toNat_lt (c : Char) : c.toNat < 0x110000 := by
  have h : c.toNat.isValidChar := c.valid
  simp only [Nat.isValidChar] at h
  omega

theorem prepends_escapeNumber (c : Char) : Prepends (escapeNumber c.toNat) (halves (.char c)) := by
  have hbound := toNat_lt c
  unfold escapeNumber halves
  dsimp only
  split_ifs with h
  · exact prepends_escapeUnit h (ofNat?_toNat c)
  · have hhalf : ∀ n < 0x800,
        Prepends (escapeUnit (0xD800 + n)) [.surrogate (half n)] := by
      intro n hn
      refine prepends_escapeUnit (by omega) ?_
      rw [ofNat?_surrogate hn]
      congr 2
      exact Fin.ext (Nat.mod_eq_of_lt hn).symm
    have hlow : 0xDC00 + (c.toNat - 0x10000) % 0x400 =
        0xD800 + (0x400 + (c.toNat - 0x10000) % 0x400) := by omega
    rw [hlow]
    exact (hhalf _ (by omega)).append (hhalf _ (by omega))

/-- A code point stands in a document in characters that are read as its halves. -/
theorem exists_prepends_writePoint (c : CodePoint) :
    ∃ cs, writePoint .document c = Text.ofChars cs ∧ Prepends cs (halves c) := by
  cases c with
  | surrogate i =>
    exact ⟨_, rfl, prepends_escapeUnit (by omega) (ofNat?_surrogate i.isLt)⟩
  | char c =>
    rw [writePoint]
    cases hshort : shortEscape? c with
    | some e =>
      have hhalves : halves (.char c) = [.char c] := if_pos (toNat_lt_of_shortEscape hshort)
      exact ⟨_, rfl, hhalves ▸ prepends_shortEscape hshort⟩
    | none =>
      dsimp only
      split_ifs with hescaped
      · exact ⟨_, rfl, prepends_escapeNumber c⟩
      · have hrange : 0x20 ≤ c.toNat ∧ c.toNat ≤ 0x7E := by
          simp only [Layout.document, true_and, not_or, Nat.not_lt] at hescaped
          exact hescaped
        have hhalves : halves (.char c) = [.char c] := if_pos (by omega)
        exact ⟨[c], rfl, hhalves ▸ prepends_plain (isPlain_of_shortEscape hshort hrange.1)⟩

theorem exists_prepends (t : Text) :
    ∃ cs, t.flatMap (writePoint .document) = Text.ofChars cs ∧ Prepends cs (t.flatMap halves) := by
  induction t with
  | nil => exact ⟨[], rfl, prepends_nil⟩
  | cons c t ih =>
    obtain ⟨first, hfirst, hc⟩ := exists_prepends_writePoint c
    obtain ⟨rest, hrest, ht⟩ := ih
    refine ⟨first ++ rest, ?_, hc.append ht⟩
    rw [List.flatMap_cons, hfirst, hrest, Text.ofChars, Text.ofChars, Text.ofChars, List.map_append]

theorem joinPairs_char (c : Char) (t : Text) :
    joinPairs (.char c :: t) = .char c :: joinPairs t := by
  rw [joinPairs]
  simp

/-- A surrogate stands alone if no lower half follows it as an upper one. -/
theorem joinPairs_surrogate {i : Fin 0x800} {t : Text}
    (h : ∀ low rest, t = .surrogate low :: rest → ¬(i.val < 0x400 ∧ 0x400 ≤ low.val)) :
    joinPairs (.surrogate i :: t) = .surrogate i :: joinPairs t := by
  rw [joinPairs.eq_def]
  split
  next heq =>
    obtain ⟨hi, rfl⟩ := List.cons.inj heq
    cases hi
    rw [if_neg (h _ _ rfl)]
  next heq =>
    obtain ⟨rfl, rfl⟩ := List.cons.inj heq
    rfl
  next heq => cases heq

/-- The first half of a character is an upper one. -/
theorem exists_halves_char (c : Char) : ∃ first rest, halves (.char c) = first :: rest ∧
    ∀ i, first = .surrogate i → i.val < 0x400 := by
  have hbound := toNat_lt c
  rw [halves]
  split_ifs
  · exact ⟨_, _, rfl, fun i h => by cases h⟩
  · refine ⟨_, _, rfl, ?_⟩
    rintro i ⟨⟩
    simp only [half]
    omega

/-- The halves of a character make up its number. -/
theorem char_of_halves {c : Char} (h : ¬c.toNat < 0x10000) :
    Char.ofNat (0x10000 + (half ((c.toNat - 0x10000) / 0x400)).val * 0x400 +
      ((half (0x400 + (c.toNat - 0x10000) % 0x400)).val - 0x400)) = c := by
  have hbound := toNat_lt c
  have hnumber : 0x10000 + (half ((c.toNat - 0x10000) / 0x400)).val * 0x400 +
      ((half (0x400 + (c.toNat - 0x10000) % 0x400)).val - 0x400) = c.toNat := by
    simp only [half]
    omega
  rw [hnumber, Char.ofNat_toNat]

/-- Halves are joined again. -/
theorem joinPairs_halves (t : Text) : joinPairs (t.flatMap halves) = joinPairs t := by
  fun_induction joinPairs t with
  | case1 high low rest hpair ih =>
    simp only [List.flatMap_cons, halves, List.cons_append, List.nil_append]
    rw [joinPairs, if_pos hpair, ih]
  | case2 high low rest hpair ih =>
    rw [List.flatMap_cons, ← ih]
    refine joinPairs_surrogate fun other rest' heq => ?_
    rw [List.flatMap_cons, halves] at heq
    cases heq
    exact hpair
  | case3 c rest hother ih =>
    rw [List.flatMap_cons, ← ih]
    cases c with
    | surrogate i =>
      refine joinPairs_surrogate fun low rest' heq => ?_
      cases rest with
      | nil => cases heq
      | cons d rest =>
        cases d with
        | surrogate j => exact absurd rfl (hother i j rest rfl)
        | char d =>
          obtain ⟨first, second, hd, hupper⟩ := exists_halves_char d
          rw [List.flatMap_cons, hd] at heq
          have := hupper low (List.cons.inj heq).1
          omega
    | char c =>
      rw [halves]
      split_ifs with hsmall
      · exact joinPairs_char c _
      · rw [List.cons_append, List.cons_append, List.nil_append, joinPairs, if_pos,
          char_of_halves hsmall, ih]
        have hbound := toNat_lt c
        simp only [half]
        omega
  | case4 => rfl

theorem head_joinPairs {t rest : Text} {i : Fin 0x800} (h : joinPairs t = .surrogate i :: rest) :
    ∃ rest', t = .surrogate i :: rest' := by
  unfold joinPairs at h
  split at h
  · split_ifs at h
    · cases h
    · cases h
      exact ⟨_, rfl⟩
  · cases h
    exact ⟨_, rfl⟩
  · cases h

/-- Joining is done once. -/
theorem joinPairs_joinPairs (t : Text) : joinPairs (joinPairs t) = joinPairs t := by
  fun_induction joinPairs t with
  | case1 high low rest hpair ih => rw [joinPairs_char, ih]
  | case2 high low rest hpair ih =>
    refine (joinPairs_surrogate fun other rest' heq => ?_).trans (congrArg _ ih)
    obtain ⟨_, hhead⟩ := head_joinPairs heq
    cases hhead
    exact hpair
  | case3 c rest hother ih =>
    cases c with
    | char c => rw [joinPairs_char, ih]
    | surrogate i =>
      refine (joinPairs_surrogate fun low rest' heq => ?_).trans (congrArg _ ih)
      obtain ⟨_, rfl⟩ := head_joinPairs heq
      exact absurd rfl (hother i low _ rfl)
  | case4 => rfl

/-- A text in a document is read up to its closing quotation mark. -/
theorem exists_body (t : Text) : ∃ body u, writeText .document t = Text.ofChars ('"' :: body) ∧
    joinPairs u = joinPairs t ∧ ∀ rest, stringBody (body ++ rest) = some (u, rest) := by
  obtain ⟨cs, hcs, hprepends⟩ := exists_prepends t
  refine ⟨cs ++ ['"'], t.flatMap halves, ?_, joinPairs_halves t, fun rest => ?_⟩
  · rw [writeText, hcs]
    simp [Text.ofChars]
  · rw [List.append_assoc, hprepends, List.cons_append, List.nil_append, stringBody]
    simp

end ImportStubs.Json
