import ImportStubs.Proofs.Elf.Reading
import ImportStubs.Proofs.Symbol.ExtendedIndexes

/-!
# Symbols of a payload

The data of a section may come in any chunks that deliver it. A symbol that was read keeps the
position of its entry and the section index that stands there, or it is a placeholder; index tables
replace the marked section indexes.
-/

namespace ImportStubs

theorem run_run_bind {ε α β : Type} (action : ExceptT ε Id α) (next : α → ExceptT ε Id β) :
    (action >>= next).run.run =
      (action.run.run >>= fun value => (next value).run.run : Except ε β) := by
  rcases (action : Except ε α) with e | value <;> rfl

theorem run_run_mapM {ε α β : Type} (f : α → ExceptT ε Id β) (xs : List α) :
    (xs.mapM f).run.run = xs.mapM fun x => (f x).run.run := by
  induction xs with
  | nil => rfl
  | cons x xs ih =>
    rw [List.mapM_cons, List.mapM_cons, run_run_bind, ← ih]
    congr 1
    funext value
    rw [run_run_bind]
    rfl

/-- The data of a section. -/
structure Payload where
  header : SectionHeader
  bytes : List UInt8
  chunks : List Chunk
  size_eq : header.size = bytes.length
  delivers : Chunk.Delivers 0 chunks bytes

namespace Payload

/-- A payload in one chunk. -/
def whole (header : SectionHeader) (bytes : List UInt8) (h : header.size = bytes.length) :
    Payload where
  header := header
  bytes := bytes
  chunks := [⟨0, bytes⟩]
  size_eq := h
  delivers := by
    have hwhole : Chunk.Delivers 0 [⟨(0 : ℕ), bytes⟩] (bytes ++ []) := .cons .nil
    rwa [List.append_nil] at hwhole

variable {p : Payload}

theorem scan_eq (p : Payload) {width : ℕ} (hwidth : 0 < width) :
    Record.scan width p.header.size p.chunks = { records := (Record.cut width 0 p.bytes).1 } := by
  rw [p.size_eq]
  exact Record.scan_of_delivers hwidth p.delivers

/-- The symbols of a symbol table. -/
def symbols (p : Payload) (names : ℕ → Except ReadError Text) : Except ReadError (List Symbol) :=
  (Symbol.readTable (m := Id) p.header (pure p.chunks) fun offset =>
    ExceptT.mk (names offset)).run.run

/-- The section index in the entry of a symbol table at a position. -/
def rawIndex (p : Payload) (i : ℕ) : ℕ := Word.at16 (i * p.header.entrySize.toNat + 14) p.bytes

/-- The entry of an index table at a position. -/
def indexAt (p : Payload) (i : ℕ) : Option ℕ :=
  if i < p.bytes.length / 4 then some (Word.at32 (4 * i) p.bytes) else none

/-- The symbols after some index tables. -/
def extend (symbols : List Symbol) (tables : List Payload) : List Symbol :=
  tables.foldl (fun symbols table => (Symbol.extendIndexes symbols table.header table.chunks).1)
    symbols

theorem ofRecord_eq_ok {names : ℕ → Except ReadError Text}
    (hwidth : (16 : Int) ≤ p.header.entrySize) {i : ℕ} {symbol : Symbol}
    (h : (Symbol.ofRecord (m := Id) p.header (fun offset => ExceptT.mk (names offset))
      ⟨i * p.header.entrySize.toNat,
        (p.bytes.drop (i * p.header.entrySize.toNat)).take p.header.entrySize.toNat⟩).run.run =
          .ok symbol) :
    symbol.index = i ∧ (symbol = .placeholder i ∨ symbol.sectionIndex = p.rawIndex i) := by
  have hindex : i * p.header.entrySize.toNat / p.header.entrySize.toNat = i :=
    Nat.mul_div_cancel i (by omega)
  unfold Symbol.ofRecord at h
  dsimp only at h
  rw [hindex] at h
  split_ifs at h with hplace
  · obtain rfl := Except.ok.inj h
    exact ⟨rfl, .inl rfl⟩
  · rw [run_run_bind] at h
    obtain ⟨name, _, hdecode⟩ := bind_eq_ok_iff.mp h
    obtain rfl := Except.ok.inj hdecode
    refine ⟨rfl, .inr ?_⟩
    rw [rawIndex, ← Word.at16_slice (show 14 + 2 ≤ p.header.entrySize.toNat by omega)]
    rfl

theorem symbols_eq_ok {names : ℕ → Except ReadError Text} {symbols : List Symbol}
    (h : p.symbols names = .ok symbols) {i : ℕ} {symbol : Symbol}
    (hget : symbols[i]? = some symbol) :
    symbol.index = i ∧ (symbol = .placeholder i ∨ symbol.sectionIndex = p.rawIndex i) := by
  unfold Payload.symbols Symbol.readTable at h
  cases hcount : Symbol.count p.header with
  | error cause =>
    rw [hcount] at h
    cases h
  | ok count =>
    rw [hcount] at h
    have hwidth : (16 : Int) ≤ p.header.entrySize := Symbol.le_entrySize_of_count hcount
    dsimp only at h
    have hpos : 0 < p.header.entrySize.toNat := by omega
    rw [pure_bind, run_run_bind, run_run_mapM, p.scan_eq hpos] at h
    obtain ⟨decoded, hdecoded, hdone⟩ := bind_eq_ok_iff.mp h
    obtain rfl : decoded = symbols := Except.ok.inj hdone
    rw [mapM_eq_ok_iff, Record.cut_fst_eq_map hpos, List.forall₂_map_left_iff,
      List.forall₂_iff_get] at hdecoded
    obtain ⟨hi, rfl⟩ := List.getElem?_eq_some_iff.mp hget
    have hrange : i < (List.range (p.bytes.length / p.header.entrySize.toNat)).length :=
      hdecoded.1 ▸ hi
    have hrecord := hdecoded.2 i hrange hi
    rw [List.get_eq_getElem, List.getElem_range, Nat.zero_add] at hrecord
    exact ofRecord_eq_ok hwidth hrecord

theorem extend_eq (symbols : List Symbol) (tables : List Payload) :
    extend symbols tables =
      Symbol.extendAll symbols (tables.map fun table => (Record.cut 4 0 table.bytes).1) := by
  unfold extend Symbol.extendAll
  rw [List.foldl_map]
  congr 1
  funext symbols table
  rw [Symbol.extendIndexes, table.scan_eq (by decide)]

theorem entryAt_cut (p : Payload) (i : ℕ) :
    Symbol.entryAt (Record.cut 4 0 p.bytes).1 i = p.indexAt i := by
  unfold Symbol.entryAt indexAt
  rw [Record.cut_fst_eq_map (by decide), List.getElem?_map]
  by_cases h : i < p.bytes.length / 4
  · rw [List.getElem?_range h, if_pos h]
    simp only [Option.map_some]
    rw [Word.at32_slice (Nat.le_refl 4), Nat.mul_comm i 4, Nat.add_zero]
  · rw [List.getElem?_eq_none (by simpa using h), if_neg h]
    rfl

/-- Index tables change nothing but marked section indexes. -/
theorem extend_getElem? (symbols : List Symbol) (tables : List Payload) (i : ℕ) :
    (extend symbols tables)[i]? = symbols[i]?.map fun symbol =>
      { symbol with
        sectionIndex :=
          Symbol.finalIndex symbol.sectionIndex (tables.filterMap (indexAt · i)) } := by
  have hentries : (tables.map fun table => (Record.cut 4 0 table.bytes).1).filterMap
      (Symbol.entryAt · i) = tables.filterMap (indexAt · i) := by
    rw [List.filterMap_map]
    congr 1
    funext table
    exact entryAt_cut table i
  rw [extend_eq, Symbol.extendAll_getElem?, hentries]

end Payload
end ImportStubs
