import ImportStubs.Record
import Mathlib.Tactic.Common

/-!
# Records do not depend on the cuts between chunks

A scan delivers the records of one byte string: the data of the chunks it accepts, put together.
Chunks that follow each other are all accepted, so wherever they are cut the scan is the same.
-/

namespace ImportStubs

/-- The chunks follow each other from an offset, and between them they hold the given bytes. -/
inductive Chunk.Delivers : Nat → List Chunk → List UInt8 → Prop
  | nil {base : Nat} : Delivers base [] []
  | cons {base : Nat} {data bytes : List UInt8} {rest : List Chunk} :
      Delivers (base + data.length) rest bytes →
        Delivers base (⟨base, data⟩ :: rest) (data ++ bytes)

namespace Record

theorem cut_of_lt {size base : Nat} {bytes : List UInt8} (h : bytes.length < size) :
    cut size base bytes = ([], bytes) := by
  rw [cut, dif_neg]
  omega

theorem cut_of_le {size base : Nat} {bytes : List UInt8} (hpos : 0 < size)
    (h : size ≤ bytes.length) :
    cut size base bytes =
      (⟨base, bytes.take size⟩ :: (cut size (base + size) (bytes.drop size)).1,
        (cut size (base + size) (bytes.drop size)).2) := by
  rw [cut, dif_pos ⟨hpos, h⟩]

theorem length_cut {size : Nat} (hpos : 0 < size) (base : Nat) (bytes : List UInt8) :
    (cut size base bytes).1.length * size + (cut size base bytes).2.length = bytes.length ∧
      (cut size base bytes).2.length < size := by
  fun_induction cut size base bytes with
  | case1 base bytes h records rest heq ih =>
    rw [heq] at ih
    simp only [List.length_drop, List.length_cons, Nat.add_mul, Nat.one_mul] at ih ⊢
    omega
  | case2 base bytes h =>
    simp only [List.length_nil, Nat.zero_mul, Nat.zero_add, true_and]
    omega

/-- The rest of the first part is cut together with the second part. -/
theorem cut_append {size : Nat} (base : Nat) (xs ys : List UInt8) :
    cut size base (xs ++ ys) =
      ((cut size base xs).1 ++
          (cut size (base + (cut size base xs).1.length * size) ((cut size base xs).2 ++ ys)).1,
        (cut size (base + (cut size base xs).1.length * size) ((cut size base xs).2 ++ ys)).2) := by
  fun_induction cut size base xs with
  | case1 base xs h records rest heq ih =>
    rw [heq] at ih
    have hlen : size ≤ (xs ++ ys).length := by
      rw [List.length_append]
      omega
    rw [cut_of_le h.1 hlen, List.take_append_of_le_length h.2, List.drop_append_of_le_length h.2,
      ih]
    have hbase : base + size + records.length * size = base + (records.length + 1) * size := by
      rw [Nat.add_mul]
      omega
    simp only [List.length_cons, hbase, List.cons_append]
  | case2 base xs h => simp

/-- The record at a position, for as many positions as there are whole records. -/
theorem cut_fst_eq_map {size : Nat} (hpos : 0 < size) (base : Nat) (bytes : List UInt8) :
    (cut size base bytes).1 =
      (List.range (bytes.length / size)).map fun i =>
        ⟨base + i * size, (bytes.drop (i * size)).take size⟩ := by
  fun_induction cut size base bytes with
  | case1 base bytes h records rest heq ih =>
    rw [heq] at ih
    have hcount : bytes.length / size = (bytes.drop size).length / size + 1 := by
      rw [List.length_drop, Nat.div_eq_sub_div hpos h.2]
    dsimp only at ih ⊢
    rw [ih, hcount, List.range_succ_eq_map]
    simp only [List.map_cons, List.map_map, Nat.zero_mul, Nat.add_zero, List.drop_zero,
      List.cons.injEq, true_and]
    apply List.map_congr_left
    intro i _
    simp only [Function.comp_apply, Nat.succ_eq_add_one, List.drop_drop, Nat.add_mul, Nat.one_mul]
    rw [Nat.add_comm size (i * size)]
    congr 1
    omega
  | case2 base bytes h =>
    rw [Nat.div_eq_of_lt (by omega)]
    rfl

/-- The data of the chunks that a scan accepts after `consumed` bytes, without what goes beyond the
declared total. -/
def accepted (total : Int) (consumed : Nat) : List Chunk → List UInt8
  | [] => []
  | chunk :: rest =>
    if total ≤ consumed ∨ chunk.offset ≠ consumed then []
    else
      let data := chunk.data.take (total - consumed).toNat
      data ++ accepted total (consumed + data.length) rest

/-- The tail kept between two chunks makes up for the cut between them. -/
theorem scanFrom_records {size : Nat} (total : Int) (chunks : List Chunk) {consumed : Nat}
    {tail : List UInt8} (htail : tail.length < size) (hle : tail.length ≤ consumed) :
    (scanFrom size total consumed tail chunks).records =
      (cut size (consumed - tail.length) (tail ++ accepted total consumed chunks)).1 := by
  induction chunks generalizing consumed tail with
  | nil => rw [accepted, List.append_nil, cut_of_lt htail, scanFrom]
  | cons chunk rest ih =>
    rw [scanFrom, accepted]
    by_cases hdone : total ≤ consumed
    · rw [if_pos hdone, if_pos (Or.inl hdone), List.append_nil, cut_of_lt htail]
    by_cases hoffset : chunk.offset = consumed
    · rw [if_neg hdone, if_neg (by simpa using hoffset), if_neg (by simp [hdone, hoffset])]
      dsimp only
      generalize chunk.data.take (total - consumed).toNat = data
      have hcut := length_cut (Nat.zero_lt_of_lt htail) (consumed - tail.length) (tail ++ data)
      rw [List.length_append] at hcut
      rw [ih hcut.2 (by omega), ← List.append_assoc,
        cut_append (consumed - tail.length) (tail ++ data)]
      have hbase :
          consumed + data.length - (cut size (consumed - tail.length) (tail ++ data)).2.length =
            consumed - tail.length +
              (cut size (consumed - tail.length) (tail ++ data)).1.length * size := by
        omega
      rw [hbase]
    · rw [if_neg hdone, if_pos hoffset, if_pos (Or.inr hoffset), List.append_nil, cut_of_lt htail]

theorem scanFrom_fault_eq_none_iff (size : Nat) (total : Int) (chunks : List Chunk) (consumed : Nat)
    (tail : List UInt8) :
    (scanFrom size total consumed tail chunks).fault = none ↔
      total ≤ consumed + (accepted total consumed chunks).length := by
  induction chunks generalizing consumed tail with
  | nil => simp [scanFrom, accepted]
  | cons chunk rest ih =>
    rw [scanFrom, accepted]
    by_cases hdone : total ≤ consumed
    · simp [hdone]
    by_cases hoffset : chunk.offset = consumed
    · rw [if_neg hdone, if_neg (by simpa using hoffset), if_neg (by simp [hdone, hoffset])]
      dsimp only
      rw [ih, List.length_append]
      push_cast
      rw [Int.add_assoc]
    · simp [hdone, hoffset]

theorem accepted_of_delivers {base : Nat} {chunks : List Chunk} {bytes : List UInt8}
    (h : Chunk.Delivers base chunks bytes) :
    accepted (base + bytes.length : Nat) base chunks = bytes := by
  induction h with
  | nil => rfl
  | @cons base data bytes rest _ ih =>
    have hsum : base + (data ++ bytes).length = base + data.length + bytes.length := by
      rw [List.length_append]
      omega
    rw [accepted, hsum]
    by_cases hdone : ((base + data.length + bytes.length : Nat) : Int) ≤ base
    · have hdata : data = [] := List.length_eq_zero_iff.mp (by omega)
      have hbytes : bytes = [] := List.length_eq_zero_iff.mp (by omega)
      simp [hdata, hbytes]
    · have htake : data.take ((base + data.length + bytes.length : Nat) - (base : Int)).toNat =
          data :=
        List.take_of_length_le (by omega)
      rw [if_neg (by simpa using hdone)]
      dsimp only
      rw [htake, ih]

/-- Bytes delivered in any chunks are cut as if they came in one. -/
theorem scan_of_delivers {size : Nat} (hpos : 0 < size) {chunks : List Chunk} {bytes : List UInt8}
    (h : Chunk.Delivers 0 chunks bytes) :
    scan size bytes.length chunks = { records := (cut size 0 bytes).1 } := by
  have haccepted : accepted bytes.length 0 chunks = bytes := by
    simpa using accepted_of_delivers h
  have hrecords := @scanFrom_records size bytes.length chunks 0 [] hpos (Nat.le_refl 0)
  have hfault :=
    (scanFrom_fault_eq_none_iff size bytes.length chunks 0 []).mpr (by simp [haccepted])
  rw [haccepted] at hrecords
  rw [scan]
  generalize scanFrom size bytes.length 0 [] chunks = result at hrecords hfault
  cases result
  simp_all

end Record
end ImportStubs
