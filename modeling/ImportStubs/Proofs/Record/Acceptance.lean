import ImportStubs.Proofs.Record.Stitching
import Mathlib.Data.List.Infix
import Mathlib.Data.Nat.Find

/-!
# Which chunks a scan accepts

A chunk is accepted if it starts where the chunks before it end and these hold fewer bytes than
declared. The records that a scan delivers, and the fault that it ends with, depend on the longest
accepted part at the front only, and on the chunk after it while bytes are missing.
-/

namespace ImportStubs

namespace Chunk

/-- The data of some chunks, put together. -/
def join (chunks : List Chunk) : List UInt8 := chunks.flatMap Chunk.data

@[simp] theorem join_nil : join [] = [] := rfl

@[simp] theorem join_append (xs ys : List Chunk) : join (xs ++ ys) = join xs ++ join ys :=
  List.flatMap_append

@[simp] theorem join_singleton (chunk : Chunk) : join [chunk] = chunk.data := by simp [join]

/-- Bytes are missing after some chunks, and the next chunk starts where they end. -/
structure Continues (total : ℕ) (before : List Chunk) (chunk : Chunk) : Prop where
  lt : (join before).length < total
  offset_eq : chunk.offset = (join before).length

/-- Each of the chunks continues those before it. -/
def Consecutive (total : ℕ) (front : List Chunk) : Prop :=
  ∀ before chunk after, front = before ++ chunk :: after → Continues total before chunk

/-- Some chunks are cut into those that are accepted and the others. -/
structure Accepts (total : ℕ) (chunks front rest : List Chunk) : Prop where
  append_eq : front ++ rest = chunks
  consecutive : Consecutive total front
  stops : ∀ chunk after, rest = chunk :: after → ¬Continues total front chunk

variable {total : ℕ} {chunks front rest : List Chunk}

theorem consecutive_nil : Consecutive total [] := by
  intro before chunk after h
  simp at h

theorem consecutive_concat {chunk : Chunk} :
    Consecutive total (front ++ [chunk]) ↔
      Consecutive total front ∧ Continues total front chunk := by
  constructor
  · intro h
    constructor
    · intro before other after heq
      exact h before other (after ++ [chunk]) (by simp [heq])
    · exact h front chunk [] rfl
  · rintro ⟨hfront, hchunk⟩ before other after heq
    rcases List.eq_nil_or_concat after with rfl | ⟨after, last, rfl⟩
    · obtain ⟨rfl, hlast⟩ := List.append_inj' heq rfl
      obtain rfl := List.singleton_inj.mp hlast
      exact hchunk
    · have hinit : front ++ [chunk] = (before ++ other :: after) ++ [last] := by simp [heq]
      exact hfront before other after (List.append_inj' hinit rfl).1

theorem consecutive_singleton {chunk : Chunk} :
    Consecutive total [chunk] ↔ Continues total [] chunk := by
  rw [← List.nil_append [chunk], consecutive_concat]
  simp [consecutive_nil]

theorem exists_accepts (total : ℕ) (chunks : List Chunk) :
    ∃ front rest, Accepts total chunks front rest := by
  classical
  let n := Nat.findGreatest (fun n => Consecutive total (chunks.take n)) chunks.length
  have hn : Consecutive total (chunks.take n) :=
    Nat.findGreatest_spec (P := fun n => Consecutive total (chunks.take n)) (Nat.zero_le _)
      consecutive_nil
  refine ⟨chunks.take n, chunks.drop n, List.take_append_drop n chunks, hn, ?_⟩
  -- one more chunk would make a longer accepted part
  intro chunk after hrest hchunk
  have hlt : n < chunks.length := by
    by_contra hge
    simp [List.drop_eq_nil_of_le (Nat.not_lt.mp hge)] at hrest
  have hget : chunks[n] = chunk := by
    rw [List.drop_eq_getElem_cons hlt] at hrest
    exact (List.cons.inj hrest).1
  have hnext : Consecutive total (chunks.take (n + 1)) := by
    rw [List.take_add_one, List.getElem?_eq_getElem hlt, hget]
    exact consecutive_concat.mpr ⟨hn, hchunk⟩
  exact Nat.findGreatest_is_greatest (Nat.lt_succ_self n) hlt hnext

theorem Accepts.eq_of_prefix {front' rest' : List Chunk} (h : Accepts total chunks front rest)
    (h' : Accepts total chunks front' rest') (hstart : front <+: front') : front = front' := by
  obtain ⟨more, rfl⟩ := hstart
  cases more with
  | nil => simp
  | cons chunk more =>
    have hrest : rest = chunk :: (more ++ rest') := by
      have heq := h.append_eq.trans h'.append_eq.symm
      simpa using heq
    exact absurd (h'.consecutive front chunk more rfl) (h.stops chunk _ hrest)

/-- There is only one way to cut chunks like this. -/
theorem Accepts.unique {front' rest' : List Chunk} (h : Accepts total chunks front rest)
    (h' : Accepts total chunks front' rest') : front' = front ∧ rest' = rest := by
  have hfront : front' = front := by
    rcases List.prefix_or_prefix_of_prefix ⟨rest, h.append_eq⟩ ⟨rest', h'.append_eq⟩ with hp | hp
    · exact (h.eq_of_prefix h' hp).symm
    · exact h'.eq_of_prefix h hp
  subst hfront
  exact ⟨rfl, List.append_cancel_left (h'.append_eq.trans h.append_eq.symm)⟩

/-- Some chunks with other data of the same lengths. -/
def SameShape (chunks other : List Chunk) : Prop :=
  List.Forall₂ (fun a b => b.offset = a.offset ∧ b.data.length = a.data.length) chunks other

end Chunk

namespace Record

open Chunk (join Continues Consecutive Accepts)

variable {total : ℕ} {chunks front rest : List Chunk}

theorem accepted_append (h : Consecutive total front) (rest : List Chunk) :
    accepted total 0 (front ++ rest) =
      (join front).take total ++ accepted total (min (join front).length total) rest := by
  induction front using List.reverseRecOn generalizing rest with
  | nil => simp
  | append_singleton front chunk ih =>
    obtain ⟨hfront, hlt, hoffset⟩ := Chunk.consecutive_concat.mp h
    have hmin : min (join front).length total = (join front).length := Nat.min_eq_left hlt.le
    have hleft : ((total : Int) - (join front).length).toNat = total - (join front).length := by
      omega
    have hseen : ¬((total : Int) ≤ (join front).length ∨ chunk.offset ≠ (join front).length) := by
      simp [hoffset]
      omega
    rw [List.append_assoc, List.singleton_append, ih hfront, hmin, accepted, if_neg hseen, hleft]
    simp only [Chunk.join_append, Chunk.join_singleton, List.take_append, List.append_assoc,
      List.length_append, List.length_take]
    congr 3
    omega

/-- Nothing is accepted after the accepted part. -/
theorem accepted_eq_take (h : Accepts total chunks front rest) :
    accepted total 0 chunks = (join front).take total := by
  have hstop : accepted total (min (join front).length total) rest = [] := by
    cases hrest : rest with
    | nil => rfl
    | cons chunk after =>
      have hnot := h.stops chunk after hrest
      rw [accepted, if_pos]
      by_contra hor
      push Not at hor
      exact hnot ⟨by omega, by omega⟩
  rw [← h.append_eq, accepted_append h.consecutive, hstop, List.append_nil]

/-- The fault of a scan is met after the accepted part. -/
theorem exists_fault_append (size : ℕ) (h : Consecutive total front) (rest : List Chunk) :
    ∃ tail, (scanFrom size total 0 [] (front ++ rest)).fault =
      (scanFrom size total (min (join front).length total) tail rest).fault := by
  induction front using List.reverseRecOn generalizing rest with
  | nil => exact ⟨[], by simp⟩
  | append_singleton front chunk ih =>
    obtain ⟨hfront, hlt, hoffset⟩ := Chunk.consecutive_concat.mp h
    obtain ⟨tail, htail⟩ := ih hfront (chunk :: rest)
    have hmin : min (join front).length total = (join front).length := Nat.min_eq_left hlt.le
    have hseen : ¬(total : Int) ≤ (join front).length := by omega
    have hnext : (join front).length +
        (chunk.data.take ((total : Int) - (join front).length).toNat).length =
          min (join (front ++ [chunk])).length total := by
      simp only [Chunk.join_append, Chunk.join_singleton, List.length_append, List.length_take]
      omega
    rw [hmin, scanFrom, if_neg hseen, if_neg (not_not.mpr hoffset)] at htail
    dsimp only at htail
    rw [hnext] at htail
    rw [List.append_assoc, List.singleton_append]
    exact ⟨_, htail⟩

/-- How a scan ends after the accepted bytes: they are all that was declared, or the next chunk
leaves a gap or goes back, or there is no next chunk. -/
inductive Ending (total : ℕ) (bytes : List UInt8) (rest : List Chunk) : Option LoadFault → Prop
  | complete (length_eq : bytes.length = total) : Ending total bytes rest none
  | misplaced {chunk : Chunk} {after : List Chunk} (length_lt : bytes.length < total)
      (rest_eq : rest = chunk :: after) (offset_ne : chunk.offset ≠ bytes.length) :
      Ending total bytes rest (some (.misplacedChunk chunk.offset bytes.length))
  | short (length_lt : bytes.length < total) (rest_eq : rest = []) :
      Ending total bytes rest (some (.shortData bytes.length total))

/-- The whole records of some bytes. -/
def whole (size : ℕ) (bytes : List UInt8) : List Record :=
  (List.range (bytes.length / size)).map fun i => ⟨i * size, (bytes.drop (i * size)).take size⟩

theorem ending_scan (size : ℕ) (h : Accepts total chunks front rest) :
    Ending total ((join front).take total) rest (scan size total chunks).fault := by
  obtain ⟨tail, htail⟩ := exists_fault_append size h.consecutive rest
  rw [scan, ← h.append_eq, htail]
  have hlength : ((join front).take total).length = min (join front).length total := by
    simp [Nat.min_comm]
  by_cases hdone : total ≤ (join front).length
  · have hmin : min (join front).length total = total := Nat.min_eq_right hdone
    have hnone : (scanFrom size total total tail rest).fault = none := by
      cases rest <;> simp [scanFrom]
    rw [hmin, hnone]
    exact .complete (hlength.trans hmin)
  have hlt : (join front).length < total := Nat.lt_of_not_le hdone
  have hmin : min (join front).length total = (join front).length := Nat.min_eq_left hlt.le
  rw [hmin, ← hmin, ← hlength]
  have hmissing : ((join front).take total).length < total := by omega
  cases hrest : rest with
  | nil =>
    rw [scanFrom, if_pos (by omega)]
    exact .short hmissing rfl
  | cons chunk after =>
    have hoffset : chunk.offset ≠ ((join front).take total).length := by
      intro heq
      exact h.stops chunk after hrest ⟨hlt, by omega⟩
    rw [scanFrom, if_neg (by omega), if_pos hoffset]
    exact .misplaced hmissing rfl hoffset

theorem records_scan {size : ℕ} (hsize : 0 < size) (h : Accepts total chunks front rest) :
    (scan size total chunks).records = whole size ((join front).take total) := by
  rw [scan, scanFrom_records total chunks hsize (Nat.le_refl 0), accepted_eq_take h,
    List.nil_append, cut_fst_eq_map hsize, whole]
  simp

theorem Ending.category_eq {bytes : List UInt8} {cause : LoadFault}
    (h : Ending total bytes rest (some cause)) : cause.category = .malformedObject := by
  cases h <;> rfl

/-- Chunks behind the declared bytes make no difference. -/
theorem scan_of_complete {size : ℕ} (hsize : 0 < size) (h : Accepts total chunks front rest)
    (hlength : ((join front).take total).length = total) (other : List Chunk) :
    scan size total (front ++ other) = scan size total chunks := by
  have hother : Accepts total (front ++ other) front other := by
    refine ⟨rfl, h.consecutive, ?_⟩
    intro chunk after _ hchunk
    have hlt := hchunk.lt
    rw [List.length_take] at hlength
    omega
  have hfault : ∀ {chunks rest}, Accepts total chunks front rest →
      (scan size total chunks).fault = none := by
    intro chunks rest hchunks
    cases hfault : (scan size total chunks).fault with
    | none => rfl
    | some cause =>
      have hending := ending_scan size hchunks
      rw [hfault] at hending
      cases hending <;> omega
  calc scan size total (front ++ other)
      = ⟨(scan size total (front ++ other)).records,
          (scan size total (front ++ other)).fault⟩ := rfl
    _ = ⟨(scan size total chunks).records, (scan size total chunks).fault⟩ := by
        rw [records_scan hsize hother, records_scan hsize h, hfault hother, hfault h]
    _ = scan size total chunks := rfl

variable {other : List Chunk}

theorem length_take_congr {xs ys : List UInt8} (h : ys.length = xs.length) (n : ℕ) :
    (ys.take n).length = (xs.take n).length := by
  rw [List.length_take, List.length_take, h]

theorem length_accepted_congr (h : Chunk.SameShape chunks other) (total : Int) (consumed : ℕ) :
    (accepted total consumed other).length = (accepted total consumed chunks).length := by
  induction h generalizing consumed with
  | nil => rfl
  | @cons a b chunks other hab _ ih =>
    obtain ⟨hoffset, hlength⟩ := hab
    have htake := length_take_congr hlength (total - consumed).toNat
    rw [accepted, accepted, hoffset]
    by_cases hstop : total ≤ consumed ∨ a.offset ≠ consumed
    · rw [if_pos hstop, if_pos hstop]
    · rw [if_neg hstop, if_neg hstop]
      dsimp only
      rw [List.length_append, List.length_append, htake, ih]

theorem fault_scanFrom_congr (h : Chunk.SameShape chunks other) (size : ℕ) (total : Int)
    (consumed : ℕ) (tail tail' : List UInt8) :
    (scanFrom size total consumed tail' other).fault =
      (scanFrom size total consumed tail chunks).fault := by
  induction h generalizing consumed tail tail' with
  | nil => rfl
  | @cons a b chunks other hab _ ih =>
    obtain ⟨hoffset, hlength⟩ := hab
    have htake := length_take_congr hlength (total - consumed).toNat
    rw [scanFrom, scanFrom, hoffset]
    by_cases hdone : total ≤ consumed
    · rw [if_pos hdone, if_pos hdone]
    by_cases hgap : a.offset ≠ consumed
    · rw [if_neg hdone, if_neg hdone, if_pos hgap, if_pos hgap]
    · rw [if_neg hdone, if_neg hdone, if_neg hgap, if_neg hgap]
      dsimp only
      rw [htake]
      exact ih ..

/-- The records of a scan are the whole records of the accepted bytes in order, and the scan ends
normally exactly if these are as many bytes as declared. -/
theorem scan_outcome {size : Int} (hsize : 0 < size) (total : ℕ) (chunks : List Chunk) :
    ∃ front rest, Accepts total chunks front rest ∧
      (∀ front' rest', Accepts total chunks front' rest' → front' = front ∧ rest' = rest) ∧
      (∃ fault, scan? size total chunks =
          .ok { records := whole size.toNat ((join front).take total), fault } ∧
        Ending total ((join front).take total) rest fault ∧
        ∀ cause, fault = some cause → cause.category = .malformedObject) ∧
      (((join front).take total).length = total →
        ∀ other, scan? size total (front ++ other) = scan? size total chunks) := by
  obtain ⟨front, rest, h⟩ := Chunk.exists_accepts total chunks
  have hpos : 0 < size.toNat := by omega
  have hscan : ∀ chunks, scan? size total chunks = .ok (scan size.toNat total chunks) := by
    intro chunks
    rw [scan?, if_neg (by omega)]
  have hending := ending_scan size.toNat h
  refine ⟨front, rest, h, fun _ _ h' => h.unique h', ⟨_, ?_, hending, ?_⟩, ?_⟩
  · rw [hscan, ← records_scan hpos h]
  · intro cause hcause
    rw [hcause] at hending
    exact hending.category_eq
  · intro hlength other
    rw [hscan, hscan, scan_of_complete hpos h hlength]

/-- Two chunks with an empty one between them, a chunk that leaves a gap, and one without a gap
behind it. -/
def gapChunks : List Chunk := [⟨0, [1, 2, 3]⟩, ⟨3, []⟩, ⟨3, [4, 5, 6]⟩, ⟨9, [7]⟩, ⟨6, [8]⟩]

theorem accepts_gapChunks :
    Accepts 10 gapChunks [⟨0, [1, 2, 3]⟩, ⟨3, []⟩, ⟨3, [4, 5, 6]⟩] [⟨9, [7]⟩, ⟨6, [8]⟩] := by
  refine ⟨rfl, ?_, ?_⟩
  · have hfirst : Consecutive 10 [⟨0, [1, 2, 3]⟩] :=
      Chunk.consecutive_singleton.mpr ⟨by decide, rfl⟩
    have hempty : Consecutive 10 ([⟨0, [1, 2, 3]⟩] ++ [⟨3, []⟩]) :=
      Chunk.consecutive_concat.mpr ⟨hfirst, ⟨by decide, rfl⟩⟩
    have hlast : Consecutive 10 ([⟨0, [1, 2, 3]⟩, ⟨3, []⟩] ++ [⟨3, [4, 5, 6]⟩]) :=
      Chunk.consecutive_concat.mpr ⟨hempty, ⟨by decide, rfl⟩⟩
    exact hlast
  · intro chunk after hrest hchunk
    obtain ⟨rfl, -⟩ := List.cons.inj hrest
    exact absurd hchunk.offset_eq (by decide)

theorem scan_outcome_gap : (0 : Int) < 4 ∧ scan? 4 10 gapChunks =
    .ok { records := [⟨0, [1, 2, 3, 4]⟩], fault := some (.misplacedChunk 9 6) } := by
  have hsize : (0 : Int) < 4 := by decide
  obtain ⟨front, rest, -, hunique, ⟨fault, hscan, hending, -⟩, -⟩ := scan_outcome hsize 10 gapChunks
  obtain ⟨rfl, rfl⟩ := hunique _ _ accepts_gapChunks
  refine ⟨hsize, ?_⟩
  cases hending with
  | complete length_eq => exact absurd length_eq (by decide)
  | short _ rest_eq => cases rest_eq
  | misplaced _ rest_eq _ =>
    obtain ⟨rfl, -⟩ := List.cons.inj rest_eq
    exact hscan

end Record
end ImportStubs
