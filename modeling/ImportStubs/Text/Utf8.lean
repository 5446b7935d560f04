/-!
# UTF-8

`units` reads bytes as a sequence of units: a character, or `none` for a maximal ill-formed part,
that is, the longest run of bytes that begins some well-formed sequence but does not complete it, or
a single byte that begins none. Strict decoding needs every unit to be a character; lossy decoding
writes U+FFFD for the others.
-/

namespace ImportStubs.Utf8

/-- What a first byte announces: its payload, the number of continuation bytes, and the bounds of
the first of them. The bounds exclude overlong forms, surrogates and numbers above U+10FFFF. -/
structure Lead where
  payload : Nat
  count : Nat
  low : Nat
  high : Nat
deriving DecidableEq, Repr

def lead? (b : Nat) : Option Lead :=
  if b < 0x80 then some ⟨b, 0, 0, 0⟩
  else if b < 0xC2 then none
  else if b < 0xE0 then some ⟨b - 0xC0, 1, 0x80, 0xBF⟩
  else if b < 0xF0 then
    some ⟨b - 0xE0, 2, if b = 0xE0 then 0xA0 else 0x80, if b = 0xED then 0x9F else 0xBF⟩
  else if b < 0xF5 then
    some ⟨b - 0xF0, 3, if b = 0xF0 then 0x90 else 0x80, if b = 0xF4 then 0x8F else 0xBF⟩
  else none

/-- Reads continuation bytes onto `acc`, the first one between `low` and `high`, and stops before a
byte that does not fit. -/
def readTail : (count low high acc : Nat) → List UInt8 → Option Nat × List UInt8
  | 0, _, _, acc, bytes => (some acc, bytes)
  | _ + 1, _, _, _, [] => (none, [])
  | count + 1, low, high, acc, b :: bytes =>
    if low ≤ b.toNat ∧ b.toNat ≤ high then readTail count 0x80 0xBF (acc * 64 + b.toNat % 64) bytes
    else (none, b :: bytes)

theorem length_readTail_le (count low high acc : Nat) (bytes : List UInt8) :
    (readTail count low high acc bytes).2.length ≤ bytes.length := by
  induction bytes generalizing count low high acc with
  | nil => cases count <;> simp [readTail]
  | cons b bytes ih =>
    cases count with
    | zero => simp [readTail]
    | succ count =>
      rw [readTail]
      split
      · exact Nat.le_succ_of_le (ih count 0x80 0xBF _)
      · exact Nat.le_refl _

/-- The unit that a first byte starts, and the bytes after it. -/
def unit (b : UInt8) (bytes : List UInt8) : Option Char × List UInt8 :=
  match lead? b.toNat with
  | none => (none, bytes)
  | some lead =>
    let (number, rest) := readTail lead.count lead.low lead.high lead.payload bytes
    (number.bind fun n => if h : n.isValidChar then some (Char.ofNatAux n h) else none, rest)

theorem length_unit_le (b : UInt8) (bytes : List UInt8) :
    (unit b bytes).2.length ≤ bytes.length := by
  unfold unit
  split
  · exact Nat.le_refl _
  · exact length_readTail_le ..

def units : List UInt8 → List (Option Char)
  | [] => []
  | b :: bytes => (unit b bytes).1 :: units (unit b bytes).2
termination_by bytes => bytes.length
decreasing_by exact Nat.lt_succ_of_le (length_unit_le b bytes)

/-- All characters, if the bytes are well-formed throughout. -/
def decode? (bytes : List UInt8) : Option (List Char) := (units bytes).mapM id

/-- The characters, with U+FFFD for each ill-formed part. -/
def decodeLossy (bytes : List UInt8) : List Char := (units bytes).map (·.getD '\uFFFD')

def encodeNat (n : Nat) : List UInt8 :=
  if n < 0x80 then [UInt8.ofNat n]
  else if n < 0x800 then [UInt8.ofNat (0xC0 + n / 64), UInt8.ofNat (0x80 + n % 64)]
  else if n < 0x10000 then
    [UInt8.ofNat (0xE0 + n / 4096), UInt8.ofNat (0x80 + n / 64 % 64), UInt8.ofNat (0x80 + n % 64)]
  else
    [UInt8.ofNat (0xF0 + n / 262144), UInt8.ofNat (0x80 + n / 4096 % 64),
      UInt8.ofNat (0x80 + n / 64 % 64), UInt8.ofNat (0x80 + n % 64)]

def encode (cs : List Char) : List UInt8 := cs.flatMap fun c => encodeNat c.toNat

end ImportStubs.Utf8
