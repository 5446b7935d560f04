import ImportStubs.Proofs.Text.Encoding

/-!
# Strict decoding

The forms that are too long, surrogates and numbers that are too large are excluded by the bounds on
the first continuation byte. So a character that is read stood there in its one encoding, and bytes
can be decoded exactly if they are the encoding of some characters.
-/

namespace ImportStubs.Utf8

/-- A continuation that was read starts with a byte within the bounds. -/
theorem exists_of_readTail {count low high acc n : ℕ} {bytes rest : List UInt8}
    (h : readTail (count + 1) low high acc bytes = (some n, rest)) :
    ∃ b after, bytes = b :: after ∧ low ≤ b.toNat ∧ b.toNat ≤ high ∧
      readTail count 0x80 0xBF (acc * 64 + b.toNat % 64) after = (some n, rest) := by
  cases bytes with
  | nil => cases h
  | cons b after =>
    rw [readTail] at h
    split_ifs at h with hbounds
    · exact ⟨b, after, rfl, hbounds.1, hbounds.2, h⟩
    · cases h

theorem ofNat_eq {b : UInt8} {n : ℕ} (h : n = b.toNat) : UInt8.ofNat n = b := by
  rw [h, UInt8.ofNat_toNat]

section

variable {b : UInt8} {bytes rest : List UInt8} {n : ℕ}

theorem encodeNat_of_one (hlt : b.toNat < 0x80)
    (h : readTail 0 0 0 b.toNat bytes = (some n, rest)) :
    n.isValidChar ∧ b :: bytes = encodeNat n ++ rest := by
  obtain ⟨heq, rfl⟩ := Prod.mk.inj h
  obtain rfl := Option.some.inj heq
  refine ⟨.inl (by omega), ?_⟩
  rw [encodeNat, if_pos hlt, UInt8.ofNat_toNat]
  rfl

theorem encodeNat_of_two (hb : 0xC2 ≤ b.toNat) (hlt : b.toNat < 0xE0)
    (h : readTail 1 0x80 0xBF (b.toNat - 0xC0) bytes = (some n, rest)) :
    n.isValidChar ∧ b :: bytes = encodeNat n ++ rest := by
  obtain ⟨b₁, after, rfl, hlow, hhigh, hend⟩ := exists_of_readTail h
  obtain ⟨heq, rfl⟩ := Prod.mk.inj hend
  obtain rfl := Option.some.inj heq
  refine ⟨.inl (by omega), ?_⟩
  rw [encodeNat, if_neg (by omega), if_pos (by omega), ofNat_eq (b := b) (by omega),
    ofNat_eq (b := b₁) (by omega)]
  rfl

theorem encodeNat_of_three (hb : 0xE0 ≤ b.toNat) (hlt : b.toNat < 0xF0)
    (h : readTail 2 (if b.toNat = 0xE0 then 0xA0 else 0x80)
      (if b.toNat = 0xED then 0x9F else 0xBF) (b.toNat - 0xE0) bytes = (some n, rest)) :
    n.isValidChar ∧ b :: bytes = encodeNat n ++ rest := by
  obtain ⟨b₁, after, rfl, hlow, hhigh, hnext⟩ := exists_of_readTail h
  obtain ⟨b₂, after, rfl, hlow₂, hhigh₂, hend⟩ := exists_of_readTail hnext
  obtain ⟨heq, rfl⟩ := Prod.mk.inj hend
  obtain rfl := Option.some.inj heq
  have hlow' : 0x80 ≤ b₁.toNat ∧ (b.toNat = 0xE0 → 0xA0 ≤ b₁.toNat) := by
    split_ifs at hlow <;> omega
  -- A first byte 0xED leaves no room for surrogates.
  have hhigh' : b₁.toNat ≤ 0xBF ∧ (b.toNat = 0xED → b₁.toNat ≤ 0x9F) := by
    split_ifs at hhigh <;> omega
  unfold Nat.isValidChar
  refine ⟨by omega, ?_⟩
  rw [encodeNat, if_neg (by omega), if_neg (by omega), if_pos (by omega),
    ofNat_eq (b := b) (by omega), ofNat_eq (b := b₁) (by omega), ofNat_eq (b := b₂) (by omega)]
  rfl

theorem encodeNat_of_four (hb : 0xF0 ≤ b.toNat) (hlt : b.toNat < 0xF5)
    (h : readTail 3 (if b.toNat = 0xF0 then 0x90 else 0x80)
      (if b.toNat = 0xF4 then 0x8F else 0xBF) (b.toNat - 0xF0) bytes = (some n, rest)) :
    n.isValidChar ∧ b :: bytes = encodeNat n ++ rest := by
  obtain ⟨b₁, after, rfl, hlow, hhigh, hnext⟩ := exists_of_readTail h
  obtain ⟨b₂, after, rfl, hlow₂, hhigh₂, hnext₂⟩ := exists_of_readTail hnext
  obtain ⟨b₃, after, rfl, hlow₃, hhigh₃, hend⟩ := exists_of_readTail hnext₂
  obtain ⟨heq, rfl⟩ := Prod.mk.inj hend
  obtain rfl := Option.some.inj heq
  have hlow' : 0x80 ≤ b₁.toNat ∧ (b.toNat = 0xF0 → 0x90 ≤ b₁.toNat) := by
    split_ifs at hlow <;> omega
  -- A first byte 0xF4 leaves no room for numbers above the last one.
  have hhigh' : b₁.toNat ≤ 0xBF ∧ (b.toNat = 0xF4 → b₁.toNat ≤ 0x8F) := by
    split_ifs at hhigh <;> omega
  unfold Nat.isValidChar
  refine ⟨by omega, ?_⟩
  rw [encodeNat, if_neg (by omega), if_neg (by omega), if_neg (by omega),
    ofNat_eq (b := b) (by omega), ofNat_eq (b := b₁) (by omega), ofNat_eq (b := b₂) (by omega),
    ofNat_eq (b := b₃) (by omega)]
  rfl

/-- What the first byte announces and the bytes after it complete is the encoding of a character. -/
theorem encodeNat_of_readTail {lead : Lead} (hlead : lead? b.toNat = some lead)
    (h : readTail lead.count lead.low lead.high lead.payload bytes = (some n, rest)) :
    n.isValidChar ∧ b :: bytes = encodeNat n ++ rest := by
  unfold lead? at hlead
  split at hlead
  next hone =>
    obtain rfl := Option.some.inj hlead
    exact encodeNat_of_one hone h
  split at hlead
  · cases hlead
  next hnone =>
  split at hlead
  next htwo =>
    obtain rfl := Option.some.inj hlead
    exact encodeNat_of_two (Nat.not_lt.mp hnone) htwo h
  next htwo =>
  split at hlead
  next hthree =>
    obtain rfl := Option.some.inj hlead
    exact encodeNat_of_three (Nat.not_lt.mp htwo) hthree h
  next hthree =>
  split at hlead
  next hfour =>
    obtain rfl := Option.some.inj hlead
    exact encodeNat_of_four (Nat.not_lt.mp hthree) hfour h
  · cases hlead

end

/-- A unit is a first byte that starts nothing, a continuation that breaks off, or a character: a
complete continuation always is one. -/
theorem unit_cases {b : UInt8} {bytes rest : List UInt8} {found : Option Char}
    (h : unit b bytes = (found, rest)) :
    lead? b.toNat = none ∧ found = none ∧ bytes = rest ∨
      (∃ lead, lead? b.toNat = some lead ∧ found = none ∧
        readTail lead.count lead.low lead.high lead.payload bytes = (none, rest)) ∨
      ∃ c, found = some c ∧ b :: bytes = encodeNat c.toNat ++ rest := by
  unfold unit at h
  cases hlead : lead? b.toNat with
  | none =>
    rw [hlead] at h
    obtain ⟨rfl, rfl⟩ := Prod.mk.inj h
    exact .inl ⟨rfl, rfl, rfl⟩
  | some lead =>
    rw [hlead] at h
    dsimp only at h
    rcases htail : readTail lead.count lead.low lead.high lead.payload bytes with ⟨number, after⟩
    rw [htail] at h
    obtain ⟨rfl, rfl⟩ := Prod.mk.inj h
    cases number with
    | none => exact .inr (.inl ⟨lead, rfl, rfl, htail⟩)
    | some n =>
      obtain ⟨hvalid, heq⟩ := encodeNat_of_readTail hlead htail
      rw [Option.bind_some, dif_pos hvalid]
      exact .inr (.inr ⟨_, rfl, heq⟩)

/-- A unit that is a character is the encoding of that character. -/
theorem encodeNat_of_unit {b : UInt8} {bytes rest : List UInt8} {c : Char}
    (h : unit b bytes = (some c, rest)) : b :: bytes = encodeNat c.toNat ++ rest := by
  obtain ⟨-, hnone, -⟩ | ⟨lead, -, hnone, -⟩ | ⟨c, hsome, heq⟩ := unit_cases h
  · cases hnone
  · cases hnone
  · cases hsome
    exact heq

theorem eq_encode_of_units {bytes : List UInt8} {cs : List Char} (h : units bytes = cs.map some) :
    bytes = encode cs := by
  induction cs generalizing bytes with
  | nil =>
    cases bytes with
    | nil => rfl
    | cons b bytes =>
      rw [units_cons] at h
      cases h
  | cons c cs ih =>
    cases bytes with
    | nil =>
      rw [units] at h
      cases h
    | cons b bytes =>
      rw [units_cons, List.map_cons] at h
      obtain ⟨hunit, hrest⟩ := List.cons.inj h
      have hfirst : unit b bytes = (some c, (unit b bytes).2) := by rw [← hunit]
      rw [encodeNat_of_unit hfirst]
      exact congrArg (encodeNat c.toNat ++ ·) (ih hrest)

theorem mapM_id_eq_some_iff {α : Type} {xs : List (Option α)} {ys : List α} :
    xs.mapM id = some ys ↔ xs = ys.map some := by
  induction xs generalizing ys with
  | nil => cases ys <;> simp
  | cons x xs ih =>
    rw [List.mapM_cons]
    cases x with
    | none => cases ys <;> simp
    | some x =>
      cases hrest : xs.mapM id with
      | none =>
        have hne : ∀ ys : List α, xs ≠ ys.map some := fun ys heq => by
          rw [ih.mpr heq] at hrest
          cases hrest
        cases ys <;> simp [hne]
      | some zs =>
        obtain rfl := ih.mp hrest
        cases ys <;> simp [List.map_inj_right]

/-- Bytes decode to characters exactly if they are the encoding of these. -/
theorem decode?_eq_some_iff {bytes : List UInt8} {cs : List Char} :
    decode? bytes = some cs ↔ bytes = encode cs := by
  rw [decode?, mapM_id_eq_some_iff]
  constructor
  · exact eq_encode_of_units
  · rintro rfl
    exact units_encode cs

theorem encode_injective : Function.Injective encode := by
  intro cs ds h
  have hcs : decode? (encode cs) = some cs := decode?_eq_some_iff.mpr rfl
  have hds : decode? (encode ds) = some ds := decode?_eq_some_iff.mpr rfl
  rw [← h, hcs] at hds
  exact Option.some.inj hds

end ImportStubs.Utf8
