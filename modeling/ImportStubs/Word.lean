/-!
# Little-endian words

A word is stored with its lowest byte first. A word that lies partly beyond the bytes is read as if
zeros followed.
-/

namespace ImportStubs.Word

def ofBytes (bytes : List UInt8) : Nat := bytes.foldr (fun b n => b.toNat + 256 * n) 0

/-- The bytes of a word of a given width. -/
def toBytes : (width n : Nat) → List UInt8
  | 0, _ => []
  | width + 1, n => UInt8.ofNat n :: toBytes width (n / 256)

def at16 (offset : Nat) (bytes : List UInt8) : Nat := ofBytes ((bytes.drop offset).take 2)

def at32 (offset : Nat) (bytes : List UInt8) : Nat := ofBytes ((bytes.drop offset).take 4)

theorem length_toBytes (width n : Nat) : (toBytes width n).length = width := by
  induction width generalizing n with
  | zero => rfl
  | succ width ih => simp [toBytes, ih]

theorem ofBytes_lt (bytes : List UInt8) : ofBytes bytes < Nat.pow 256 bytes.length := by
  induction bytes with
  | nil => simp [ofBytes]
  | cons b bytes ih =>
    have hb := b.toNat_lt
    simp only [ofBytes, List.foldr_cons, List.length_cons, Nat.pow_eq, Nat.pow_succ] at *
    omega

theorem ofBytes_toBytes (width n : Nat) : ofBytes (toBytes width n) = n % Nat.pow 256 width := by
  induction width generalizing n with
  | zero => simp [toBytes, ofBytes, Nat.mod_one]
  | succ width ih =>
    have ih := ih (n / 256)
    simp only [ofBytes, Nat.pow_eq] at ih ⊢
    have hsplit : n % 256 ^ (width + 1) = n % 256 + 256 * (n / 256 % 256 ^ width) := by
      rw [Nat.pow_succ', Nat.mod_mul]
    rw [hsplit]
    simp only [toBytes, List.foldr_cons, ih]
    rfl

theorem at16_slice {place size : Nat} (h : place + 2 ≤ size) (start : Nat) (bytes : List UInt8) :
    at16 place ((bytes.drop start).take size) = at16 (start + place) bytes := by
  unfold at16
  rw [List.drop_take, List.drop_drop, List.take_take, Nat.min_eq_left (by omega)]

theorem at32_slice {place size : Nat} (h : place + 4 ≤ size) (start : Nat) (bytes : List UInt8) :
    at32 place ((bytes.drop start).take size) = at32 (start + place) bytes := by
  unfold at32
  rw [List.drop_take, List.drop_drop, List.take_take, Nat.min_eq_left (by omega)]

theorem length_slice_le (offset size : Nat) (bytes : List UInt8) :
    ((bytes.drop offset).take size).length ≤ size := by
  rw [List.length_take]
  exact Nat.min_le_left _ _

theorem at16_lt (offset : Nat) (bytes : List UInt8) : at16 offset bytes < 0x10000 :=
  Nat.lt_of_lt_of_le (ofBytes_lt _)
    (Nat.pow_le_pow_right (by decide) (length_slice_le offset 2 bytes))

theorem at32_lt (offset : Nat) (bytes : List UInt8) : at32 offset bytes < 0x100000000 :=
  Nat.lt_of_lt_of_le (ofBytes_lt _)
    (Nat.pow_le_pow_right (by decide) (length_slice_le offset 4 bytes))

end ImportStubs.Word
