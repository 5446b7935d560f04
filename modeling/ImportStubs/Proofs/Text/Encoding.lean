import ImportStubs.Text.Utf8
import Mathlib.Tactic.Common

/-!
# Reading what was encoded

The bytes of a character are read as that character, whatever stands after them, so decoding gives
back the characters that were encoded. Only the null character has a zero byte.
-/

namespace ImportStubs.Utf8

theorem toNat_lt (c : Char) : c.toNat < 0xD800 ∨ 0xDFFF < c.toNat ∧ c.toNat < 0x110000 := c.valid

/-- A continuation byte within the bounds adds its six bits. -/
theorem readTail_ofNat {count low high acc n : ℕ} (hlow : low ≤ n) (hhigh : n ≤ high)
    (hlt : n < 256) (rest : List UInt8) :
    readTail (count + 1) low high acc (UInt8.ofNat n :: rest) =
      readTail count 0x80 0xBF (acc * 64 + n % 64) rest := by
  rw [readTail, UInt8.toNat_ofNat_of_lt' hlt, if_pos ⟨hlow, hhigh⟩]

/-- A first byte whose continuation adds up to the number of a character starts that character. -/
theorem unit_of_readTail {n : ℕ} (hlt : n < 256) {lead : Lead} (hlead : lead? n = some lead)
    {c : Char} {bytes rest : List UInt8}
    (htail : readTail lead.count lead.low lead.high lead.payload bytes = (some c.toNat, rest)) :
    unit (UInt8.ofNat n) bytes = (some c, rest) := by
  have hvalid : c.toNat.isValidChar := c.valid
  have hchar : Char.ofNatAux c.toNat hvalid = c := by
    have hofNat := Char.ofNat_toNat c
    rwa [Char.ofNat, dif_pos hvalid] at hofNat
  unfold unit
  rw [UInt8.toNat_ofNat_of_lt' hlt, hlead]
  dsimp only
  rw [htail]
  dsimp only [Option.bind_some]
  rw [dif_pos hvalid, hchar]

theorem unit_one {c : Char} (h : c.toNat < 0x80) (rest : List UInt8) :
    unit (UInt8.ofNat c.toNat) rest = (some c, rest) := by
  have hlead : lead? c.toNat = some ⟨c.toNat, 0, 0, 0⟩ := by rw [lead?, if_pos h]
  exact unit_of_readTail (by omega) hlead rfl

theorem unit_two {c : Char} (hlow : 0x80 ≤ c.toNat) (hhigh : c.toNat < 0x800) (rest : List UInt8) :
    unit (UInt8.ofNat (0xC0 + c.toNat / 64)) (UInt8.ofNat (0x80 + c.toNat % 64) :: rest) =
      (some c, rest) := by
  have hlead : lead? (0xC0 + c.toNat / 64) = some ⟨c.toNat / 64, 1, 0x80, 0xBF⟩ := by
    rw [lead?, if_neg (by omega), if_neg (by omega), if_pos (by omega), Nat.add_sub_cancel_left]
  refine unit_of_readTail (by omega) hlead ?_
  dsimp only
  rw [readTail_ofNat (by omega) (by omega) (by omega), readTail]
  congr 2
  omega

theorem unit_three {c : Char} (hlow : 0x800 ≤ c.toNat) (hhigh : c.toNat < 0x10000)
    (rest : List UInt8) :
    unit (UInt8.ofNat (0xE0 + c.toNat / 4096))
        (UInt8.ofNat (0x80 + c.toNat / 64 % 64) :: UInt8.ofNat (0x80 + c.toNat % 64) :: rest) =
      (some c, rest) := by
  have hvalid := toNat_lt c
  have hlead : lead? (0xE0 + c.toNat / 4096) =
      some ⟨c.toNat / 4096, 2, if 0xE0 + c.toNat / 4096 = 0xE0 then 0xA0 else 0x80,
        if 0xE0 + c.toNat / 4096 = 0xED then 0x9F else 0xBF⟩ := by
    rw [lead?, if_neg (by omega), if_neg (by omega), if_neg (by omega), if_pos (by omega),
      Nat.add_sub_cancel_left]
  refine unit_of_readTail (by omega) hlead ?_
  dsimp only
  rw [readTail_ofNat (by split_ifs <;> omega) (by split_ifs <;> omega) (by omega),
    readTail_ofNat (by omega) (by omega) (by omega), readTail]
  congr 2
  omega

theorem unit_four {c : Char} (hlow : 0x10000 ≤ c.toNat) (rest : List UInt8) :
    unit (UInt8.ofNat (0xF0 + c.toNat / 262144))
        (UInt8.ofNat (0x80 + c.toNat / 4096 % 64) :: UInt8.ofNat (0x80 + c.toNat / 64 % 64) ::
          UInt8.ofNat (0x80 + c.toNat % 64) :: rest) =
      (some c, rest) := by
  have hvalid := toNat_lt c
  have hlead : lead? (0xF0 + c.toNat / 262144) =
      some ⟨c.toNat / 262144, 3, if 0xF0 + c.toNat / 262144 = 0xF0 then 0x90 else 0x80,
        if 0xF0 + c.toNat / 262144 = 0xF4 then 0x8F else 0xBF⟩ := by
    rw [lead?, if_neg (by omega), if_neg (by omega), if_neg (by omega), if_neg (by omega),
      if_pos (by omega), Nat.add_sub_cancel_left]
  refine unit_of_readTail (by omega) hlead ?_
  dsimp only
  rw [readTail_ofNat (by split_ifs <;> omega) (by split_ifs <;> omega) (by omega),
    readTail_ofNat (by omega) (by omega) (by omega),
    readTail_ofNat (by omega) (by omega) (by omega), readTail]
  congr 2
  omega

theorem units_cons (b : UInt8) (bytes : List UInt8) :
    units (b :: bytes) = (unit b bytes).1 :: units (unit b bytes).2 := by
  rw [units]

/-- The bytes of a character are one unit, which is the character. -/
theorem units_encodeNat_append (c : Char) (rest : List UInt8) :
    units (encodeNat c.toNat ++ rest) = some c :: units rest := by
  unfold encodeNat
  split_ifs with hone htwo hthree
  · rw [List.singleton_append, units_cons, unit_one hone]
  · rw [List.cons_append, List.singleton_append, units_cons, unit_two (by omega) htwo]
  · rw [List.cons_append, List.cons_append, List.singleton_append, units_cons,
      unit_three (by omega) hthree]
  · rw [List.cons_append, List.cons_append, List.cons_append, List.singleton_append, units_cons,
      unit_four (by omega)]

theorem units_encode (cs : List Char) : units (encode cs) = cs.map some := by
  induction cs with
  | nil => simp [encode, units]
  | cons c cs ih =>
    have hcons : encode (c :: cs) = encodeNat c.toNat ++ encode cs := List.flatMap_cons
    rw [hcons, units_encodeNat_append, ih, List.map_cons]

/-- Decoding undoes encoding. -/
theorem decodeLossy_encode (cs : List Char) : decodeLossy (encode cs) = cs := by
  rw [decodeLossy, units_encode, List.map_map]
  exact List.map_id cs

theorem zero_notMem_encodeNat {n : ℕ} (hpos : 0 < n) (hlt : n < 0x110000) :
    0 ∉ encodeNat n := by
  have hbyte : ∀ m : ℕ, 0 < m → m < 256 → (0 : UInt8) ≠ UInt8.ofNat m := by
    intro m hm hlt heq
    have hnat := congrArg UInt8.toNat heq
    rw [UInt8.toNat_ofNat_of_lt' hlt] at hnat
    exact Nat.ne_of_lt hm hnat
  intro hmem
  unfold encodeNat at hmem
  split_ifs at hmem with hone htwo hthree <;>
    simp only [List.mem_cons, List.not_mem_nil, or_false] at hmem
  · exact hbyte n hpos (by omega) hmem
  · obtain h | h := hmem <;> exact hbyte _ (by omega) (by omega) h
  · obtain h | h | h := hmem <;> exact hbyte _ (by omega) (by omega) h
  · obtain h | h | h | h := hmem <;> exact hbyte _ (by omega) (by omega) h

/-- Only the null character has a zero byte. -/
theorem zero_notMem_encode {cs : List Char} (h : '\x00' ∉ cs) : 0 ∉ encode cs := by
  intro hzero
  obtain ⟨c, hc, hmem⟩ := List.mem_flatMap.mp hzero
  have hpos : 0 < c.toNat := by
    refine Nat.pos_of_ne_zero fun hnull => h ?_
    have hchar : c = '\x00' := by
      rw [← Char.ofNat_toNat c, hnull]
    rwa [hchar] at hc
  have hvalid := toNat_lt c
  exact zero_notMem_encodeNat hpos (by omega) hmem

end ImportStubs.Utf8
