import ImportStubs.Proofs.Text.Decoding

/-!
# Decoding with replacements

Every sequence of bytes is decoded in exactly one way. Where a character stands, it is read. Where
none stands, the longest run of bytes that could begin a character, but at least one byte, is passed
over, and U+FFFD is written for it.
-/

namespace ImportStubs.Utf8

/-- The bytes of some character begin with these. -/
def Begins (run : List UInt8) : Prop := ∃ c : Char, run <+: encodeNat c.toNat

/-- A maximal ill-formed part in front of some rest. -/
structure IllFormed (part rest : List UInt8) : Prop where
  ne_nil : part ≠ []
  no_char : ∀ c : Char, ¬encodeNat c.toNat <+: part ++ rest
  begins : part.length = 1 ∨ Begins part
  longest : ∀ run, run <+: part ++ rest → Begins run → run.length ≤ part.length

/-- The characters that some bytes stand for, with a replacement for each ill-formed part. -/
inductive Decodes : List UInt8 → List Char → Prop
  | nil : Decodes [] []
  | char (c : Char) {rest : List UInt8} {cs : List Char} :
      Decodes rest cs → Decodes (encodeNat c.toNat ++ rest) (c :: cs)
  | replaced {part rest : List UInt8} {cs : List Char} :
      IllFormed part rest → Decodes rest cs → Decodes (part ++ rest) ('\uFFFD' :: cs)

/-- A continuation can be completed from any bounds. -/
theorem exists_readTail_eq_some {low high : ℕ} (hle : low ≤ high) (hlt : high < 256)
    (count acc : ℕ) : ∃ fill n, readTail count low high acc fill = (some n, []) := by
  induction count generalizing low high acc with
  | zero => exact ⟨[], acc, rfl⟩
  | succ count ih =>
    obtain ⟨fill, n, hfill⟩ := @ih 0x80 0xBF (by decide) (by decide) (acc * 64 + low % 64)
    refine ⟨UInt8.ofNat low :: fill, n, ?_⟩
    rw [readTail_ofNat (Nat.le_refl low) hle (Nat.lt_of_le_of_lt hle hlt), hfill]

/-- The front of a continuation, up to a byte that does not fit: it can be completed, and nothing
longer can. -/
structure Front (count low high acc : ℕ) (front rest : List UInt8) : Prop where
  completes : ∃ fill n, readTail count low high acc (front ++ fill) = (some n, [])
  longest : ∀ run fill n after, run <+: front ++ rest →
    readTail count low high acc (run ++ fill) = (some n, after) → run.length ≤ front.length

section Front

variable {count low high acc : ℕ} {front rest : List UInt8}

theorem Front.cons {b : UInt8} (hfits : low ≤ b.toNat ∧ b.toNat ≤ high)
    (h : Front count 0x80 0xBF (acc * 64 + b.toNat % 64) front rest) :
    Front (count + 1) low high acc (b :: front) rest := by
  obtain ⟨fill, n, hfill⟩ := h.completes
  refine ⟨⟨fill, n, ?_⟩, ?_⟩
  · rw [List.cons_append, readTail, if_pos hfits, hfill]
  · intro run fill n after hprefix hrun
    cases run with
    | nil => simp
    | cons x run =>
      obtain ⟨rfl, hlater⟩ := List.cons_prefix_cons.mp hprefix
      rw [List.cons_append, readTail, if_pos hfits] at hrun
      exact Nat.succ_le_succ (h.longest run fill n after hlater hrun)

theorem front_nil (hle : low ≤ high) (hlt : high < 256)
    (hstop : ∀ b after, rest = b :: after → ¬(low ≤ b.toNat ∧ b.toNat ≤ high)) :
    Front (count + 1) low high acc [] rest := by
  refine ⟨exists_readTail_eq_some hle hlt _ _, ?_⟩
  intro run fill n after hprefix hrun
  cases run with
  | nil => simp
  | cons x run =>
    obtain ⟨later, hrest⟩ := hprefix
    rw [List.cons_append, readTail, if_neg (hstop x (run ++ later) hrest.symm)] at hrun
    cases hrun

/-- A continuation that cannot be read stops behind its front. -/
theorem exists_front {bytes : List UInt8} (hle : low ≤ high) (hlt : high < 256)
    (h : readTail count low high acc bytes = (none, rest)) :
    ∃ front, bytes = front ++ rest ∧ Front count low high acc front rest := by
  induction count generalizing low high acc bytes with
  | zero => cases h
  | succ count ih =>
    cases bytes with
    | nil =>
      obtain rfl : [] = rest := (Prod.mk.inj h).2
      exact ⟨[], rfl, front_nil hle hlt (by simp)⟩
    | cons b bytes =>
      rw [readTail] at h
      by_cases hfits : low ≤ b.toNat ∧ b.toNat ≤ high
      · rw [if_pos hfits] at h
        obtain ⟨front, rfl, hfront⟩ := ih (by decide) (by decide) h
        exact ⟨b :: front, rfl, hfront.cons hfits⟩
      · rw [if_neg hfits] at h
        obtain rfl : b :: bytes = rest := (Prod.mk.inj h).2
        refine ⟨[], rfl, front_nil hle hlt ?_⟩
        rintro x after ⟨⟩
        exact hfits

end Front

theorem bounds_of_lead {b : ℕ} {lead : Lead} (h : lead? b = some lead) :
    lead.low ≤ lead.high ∧ lead.high < 256 := by
  unfold lead? at h
  split_ifs at h <;> obtain rfl := Option.some.inj h <;> dsimp only <;> omega

theorem unit_eq_some {c : Char} {b : UInt8} {bytes : List UInt8}
    (h : encodeNat c.toNat <+: b :: bytes) : (unit b bytes).1 = some c := by
  obtain ⟨rest, hrest⟩ := h
  have hunits := units_encodeNat_append c rest
  rw [hrest, units_cons] at hunits
  exact (List.cons.inj hunits).1

/-- What begins a character starts with a byte that announces one, and goes on as announced. -/
theorem Begins.readTail {b : UInt8} {run : List UInt8} (h : Begins (b :: run)) :
    ∃ lead fill n after, lead? b.toNat = some lead ∧
      readTail lead.count lead.low lead.high lead.payload (run ++ fill) = (some n, after) := by
  obtain ⟨c, fill, hfill⟩ := h
  have hunit : (unit b (run ++ fill)).1 = some c := by
    apply unit_eq_some
    rw [← hfill]
    exact List.prefix_rfl
  unfold unit at hunit
  cases hlead : lead? b.toNat with
  | none => simp [hlead] at hunit
  | some lead =>
    rw [hlead] at hunit
    dsimp only at hunit
    obtain ⟨n, hn, -⟩ := Option.bind_eq_some_iff.mp hunit
    exact ⟨lead, fill, n, _, rfl, Prod.ext hn rfl⟩

theorem begins_of_readTail {b : UInt8} {lead : Lead} {run fill : List UInt8} {n : ℕ}
    (hlead : lead? b.toNat = some lead)
    (h : readTail lead.count lead.low lead.high lead.payload (run ++ fill) = (some n, [])) :
    Begins (b :: run) := by
  obtain ⟨hvalid, hbytes⟩ := encodeNat_of_readTail hlead h
  rw [List.append_nil] at hbytes
  exact ⟨Char.ofNatAux n hvalid, fill, hbytes⟩

theorem not_prefix_of_unit {b : UInt8} {bytes : List UInt8} (h : (unit b bytes).1 = none)
    (c : Char) : ¬encodeNat c.toNat <+: b :: bytes := by
  intro hprefix
  rw [unit_eq_some hprefix] at h
  cases h

theorem illFormed_single {b : UInt8} {rest : List UInt8} (hlead : lead? b.toNat = none)
    (hunit : (unit b rest).1 = none) : IllFormed [b] rest := by
  refine ⟨by simp, not_prefix_of_unit hunit, .inl rfl, ?_⟩
  intro run hprefix hbegins
  cases run with
  | nil => simp
  | cons x run =>
    obtain ⟨rfl, -⟩ := List.cons_prefix_cons.mp hprefix
    obtain ⟨lead, -, -, -, hsome, -⟩ := hbegins.readTail
    rw [hlead] at hsome
    cases hsome

/-- A byte that announces a continuation is a part together with the front of it. -/
theorem illFormed_cons {b : UInt8} {lead : Lead} {front rest : List UInt8}
    (hlead : lead? b.toNat = some lead)
    (hfront : Front lead.count lead.low lead.high lead.payload front rest)
    (hunit : (unit b (front ++ rest)).1 = none) : IllFormed (b :: front) rest := by
  obtain ⟨fill, n, hfill⟩ := hfront.completes
  refine ⟨by simp, not_prefix_of_unit hunit, .inr (begins_of_readTail hlead hfill), ?_⟩
  intro run hprefix hbegins
  cases run with
  | nil => simp
  | cons x run =>
    obtain ⟨rfl, hlater⟩ := List.cons_prefix_cons.mp hprefix
    obtain ⟨other, fill, n, after, hother, hrun⟩ := hbegins.readTail
    obtain rfl : lead = other := Option.some.inj (hlead.symm.trans hother)
    exact Nat.succ_le_succ (hfront.longest run fill n after hlater hrun)

/-- A unit that is no character is a maximal ill-formed part. -/
theorem exists_illFormed {b : UInt8} {bytes rest : List UInt8}
    (h : unit b bytes = (none, rest)) :
    ∃ part, b :: bytes = part ++ rest ∧ IllFormed part rest := by
  have hunit : (unit b bytes).1 = none := by rw [h]
  obtain ⟨hlead, -, rfl⟩ | ⟨lead, hlead, -, htail⟩ | ⟨c, hsome, -⟩ := unit_cases h
  · exact ⟨[b], rfl, illFormed_single hlead hunit⟩
  · obtain ⟨hle, hlt⟩ := bounds_of_lead hlead
    obtain ⟨front, rfl, hfront⟩ := exists_front hle hlt htail
    exact ⟨b :: front, rfl, illFormed_cons hlead hfront hunit⟩
  · cases hsome

theorem length_le_of_illFormed {part rest other after : List UInt8}
    (h : IllFormed part rest) (hother : IllFormed other after)
    (heq : part ++ rest = other ++ after) : other.length ≤ part.length := by
  rcases hother.begins with hone | hbegins
  · rw [hone]
    exact List.length_pos_iff.mpr h.ne_nil
  · apply h.longest other _ hbegins
    rw [heq]
    exact List.prefix_append other after

/-- Only one ill-formed part starts at a place. -/
theorem IllFormed.unique {part rest other after : List UInt8} (h : IllFormed part rest)
    (hother : IllFormed other after) (heq : part ++ rest = other ++ after) :
    part = other ∧ rest = after := by
  apply List.append_inj heq
  apply Nat.le_antisymm
  · exact length_le_of_illFormed hother h heq.symm
  · exact length_le_of_illFormed h hother heq

theorem decodeLossy_nil : decodeLossy [] = [] := by
  rw [decodeLossy, units]
  rfl

theorem decodeLossy_cons (b : UInt8) (bytes : List UInt8) :
    decodeLossy (b :: bytes) =
      (unit b bytes).1.getD '\uFFFD' :: decodeLossy (unit b bytes).2 := by
  rw [decodeLossy, units_cons, List.map_cons]
  rfl

theorem decodes_decodeLossy (bytes : List UInt8) : Decodes bytes (decodeLossy bytes) := by
  induction bytes using units.induct with
  | case1 =>
    rw [decodeLossy_nil]
    exact .nil
  | case2 b bytes ih =>
    rw [decodeLossy_cons]
    rcases hunit : unit b bytes with ⟨first, rest⟩
    rw [hunit] at ih
    cases first with
    | some c =>
      rw [encodeNat_of_unit hunit]
      exact .char c ih
    | none =>
      obtain ⟨part, hpart, hill⟩ := exists_illFormed hunit
      rw [hpart]
      exact .replaced hill ih

theorem Decodes.eq_decodeLossy {bytes : List UInt8} {cs : List Char} (h : Decodes bytes cs) :
    cs = decodeLossy bytes := by
  induction h with
  | nil => exact decodeLossy_nil.symm
  | char c hrest ih =>
    rw [decodeLossy, units_encodeNat_append, List.map_cons, ih]
    rfl
  | @replaced part rest cs hill hrest ih =>
    cases hbytes : part ++ rest with
    | nil => exact absurd (List.append_eq_nil_iff.mp hbytes).1 hill.ne_nil
    | cons b bytes =>
      rw [decodeLossy_cons]
      rcases hunit : unit b bytes with ⟨first, after⟩
      cases first with
      | some c =>
        have hchar : encodeNat c.toNat <+: part ++ rest := by
          rw [hbytes, encodeNat_of_unit hunit]
          exact List.prefix_append _ _
        exact absurd hchar (hill.no_char c)
      | none =>
        obtain ⟨other, hother, hill'⟩ := exists_illFormed hunit
        obtain ⟨-, rfl⟩ := hill.unique hill' (hbytes.trans hother)
        rw [ih]
        rfl

/-- Bytes are decoded in one way. -/
theorem decodes_iff {bytes : List UInt8} {cs : List Char} :
    Decodes bytes cs ↔ cs = decodeLossy bytes := by
  constructor
  · exact Decodes.eq_decodeLossy
  · rintro rfl
    exact decodes_decodeLossy bytes

-- A cut character is one part; the two bytes of a cut surrogate are two.
example : decodeLossy [0xF0, 0x9F, 0x41, 0xED, 0xA0] = ['\uFFFD', 'A', '\uFFFD', '\uFFFD'] := by
  decide +kernel

/-- Characters that show no replacement stood there in full. -/
theorem Decodes.eq_encode {bytes : List UInt8} {cs : List Char} (h : Decodes bytes cs)
    (hcs : '\uFFFD' ∉ cs) : bytes = encode cs := by
  induction h with
  | nil => rfl
  | char c hrest ih =>
    rw [ih (List.not_mem_of_not_mem_cons hcs)]
    rfl
  | replaced hill hrest ih => exact absurd (by simp) hcs

theorem Decodes.mem {bytes : List UInt8} {cs : List Char} (h : Decodes bytes cs) {c : Char}
    (hc : c ∈ cs) (hne : c ≠ '\uFFFD') : ∀ b ∈ encodeNat c.toNat, b ∈ bytes := by
  intro b hb
  induction h with
  | nil => cases hc
  | char d hrest ih =>
    rcases List.mem_cons.mp hc with rfl | hlater
    · exact List.mem_append_left _ hb
    · exact List.mem_append_right _ (ih hlater)
  | replaced hill hrest ih =>
    rcases List.mem_cons.mp hc with rfl | hlater
    · exact absurd rfl hne
    · exact List.mem_append_right _ (ih hlater)

end ImportStubs.Utf8
