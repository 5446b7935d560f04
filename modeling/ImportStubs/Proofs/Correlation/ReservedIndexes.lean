import ImportStubs.Proofs.Correlation.Attachment
import ImportStubs.Proofs.Symbol.Payload

/-!
# Reserved section indexes and large stub sections

A correlation treats a symbol as one of the stub section if it attaches the symbol or fails at it.
The section index of an entry is compared as it stands, so a reserved value there is taken for the
stub section at that very position. Apart from such collisions, only symbols of the stub section are
treated as such.
-/

namespace ImportStubs.Correlation

variable {sectionIndex : Int} {expected : SymbolKind} {symbols : List Symbol} {stubs : List Stub}

/-- The symbols before a position could be taken. -/
def Reached (sectionIndex : Int) (expected : SymbolKind) (symbols : List Symbol) (stubs : List Stub)
    (i : ℕ) : Prop :=
  ∃ middle count, correlate sectionIndex expected (symbols.take i) stubs = (middle, .ok count)

/-- The symbol at a position is attached to a stub in the end, or the correlation fails at it. -/
inductive Treated (sectionIndex : Int) (expected : SymbolKind) (symbols : List Symbol)
    (stubs : List Stub) (i : ℕ) : Prop
  | attached {symbol : Symbol} {stub : Stub} (get : symbols[i]? = some symbol)
      (mem : stub ∈ (correlate sectionIndex expected symbols stubs).1)
      (symbol_eq : stub.symbol = some symbol) :
      Treated sectionIndex expected symbols stubs i
  | blamed {final : List Stub} {e : ReadError}
      (reached : Reached sectionIndex expected symbols stubs i)
      (failed : correlate sectionIndex expected (symbols.take (i + 1)) stubs =
        (final, .error e)) :
      Treated sectionIndex expected symbols stubs i

def Indexed (symbols : List Symbol) : Prop :=
  ∀ (i : ℕ) (symbol : Symbol), symbols[i]? = some symbol → symbol.index = i

/-- The stubs have no symbols yet, as after reading. -/
def Plain (stubs : List Stub) : Prop := ∀ stub ∈ stubs, stub.symbol = none

theorem mem_of_attached (hplain : Plain stubs) {stub : Stub} {symbol : Symbol}
    (hmem : stub ∈ (correlate sectionIndex expected symbols stubs).1)
    (hsymbol : stub.symbol = some symbol) :
    symbol ∈ symbols ∧ isRelevant sectionIndex symbol = true := by
  obtain ⟨p, hget⟩ := List.mem_iff_getElem?.mp hmem
  have hlt : p < stubs.length := by
    rw [← length_correlate]
    exact (List.getElem?_eq_some_iff.mp hget).1
  obtain ⟨after, hafter, hgains⟩ := gains_correlate (List.getElem?_eq_getElem hlt)
  obtain rfl := Option.some.inj (hget.symm.trans hafter)
  cases hgains with
  | same =>
    rw [hplain _ (List.getElem_mem hlt)] at hsymbol
    cases hsymbol
  | attached _ hother hnames =>
    obtain rfl := Option.some.inj hsymbol
    exact ⟨hother, hnames.relevant⟩

/-- A correlation that fails early leaves the stubs as they were at the failure. -/
theorem correlate_fst_of_take {i : ℕ} {middle : List Stub} {e : ReadError}
    (h : correlate sectionIndex expected (symbols.take i) stubs = (middle, .error e)) :
    (correlate sectionIndex expected symbols stubs).1 = middle := by
  rw [← List.take_append_drop i symbols, correlate_append, h]

theorem reached_of_attached (hindexed : Indexed symbols) (hplain : Plain stubs) {i : ℕ}
    {symbol : Symbol} (hget : symbols[i]? = some symbol) {stub : Stub}
    (hmem : stub ∈ (correlate sectionIndex expected symbols stubs).1)
    (hsymbol : stub.symbol = some symbol) : Reached sectionIndex expected symbols stubs i := by
  rcases hrun : correlate sectionIndex expected (symbols.take i) stubs with ⟨middle, result⟩
  cases result with
  | ok count => exact ⟨middle, count, hrun⟩
  | error e =>
    rw [correlate_fst_of_take hrun] at hmem
    have hmiddle : stub ∈ (correlate sectionIndex expected (symbols.take i) stubs).1 := by
      rw [hrun]
      exact hmem
    obtain ⟨j, hj⟩ := List.mem_iff_getElem?.mp (mem_of_attached hplain hmiddle hsymbol).1
    have hlt : j < i :=
      Nat.lt_of_lt_of_le (List.getElem?_eq_some_iff.mp hj).1 (List.length_take_le i symbols)
    rw [List.getElem?_take_of_lt hlt] at hj
    have hindex := (hindexed j symbol hj).symm.trans (hindexed i symbol hget)
    omega

theorem correlate_take_succ {i : ℕ} {symbol : Symbol} (hget : symbols[i]? = some symbol)
    {middle : List Stub} {count : ℕ}
    (hrun : correlate sectionIndex expected (symbols.take i) stubs = (middle, .ok count)) :
    correlate sectionIndex expected (symbols.take (i + 1)) stubs =
      ((correlate sectionIndex expected [symbol] middle).1,
        (correlate sectionIndex expected [symbol] middle).2.map (count + ·)) := by
  rw [List.take_add_one, hget, Option.toList_some, correlate_append, hrun]

/-- A relevant symbol that is reached is attached, or the correlation fails at it. -/
theorem treated_of_reached {i : ℕ} {symbol : Symbol} (hget : symbols[i]? = some symbol)
    (hrelevant : isRelevant sectionIndex symbol = true)
    (h : Reached sectionIndex expected symbols stubs i) :
    Treated sectionIndex expected symbols stubs i := by
  obtain ⟨middle, count, hrun⟩ := h
  have hnext := correlate_take_succ hget hrun
  rw [correlate, if_pos hrelevant] at hnext
  cases hplace : place sectionIndex expected symbol middle with
  | error cause =>
    rw [hplace] at hnext
    exact .blamed ⟨middle, count, hrun⟩ hnext
  | ok placed =>
    rw [hplace] at hnext
    obtain ⟨p, stub, hstub, _, _, rfl⟩ := attach_eq_ok (place_eq_ok hplace).2
    have hset : (middle.set p { stub with symbol := some symbol })[p]? =
        some { stub with symbol := some symbol } :=
      List.getElem?_set_self (List.getElem?_eq_some_iff.mp hstub).1
    -- the symbols after this one leave the stub as it is
    have happend := @correlate_append sectionIndex expected (symbols.take (i + 1))
      (symbols.drop (i + 1)) stubs
    rw [List.take_append_drop, hnext] at happend
    obtain ⟨after, hafter, hgains⟩ :=
      @gains_correlate sectionIndex expected (symbols.drop (i + 1)) _ p _ hset
    refine .attached hget ?_ (hgains.symbol_eq rfl)
    rw [happend]
    exact List.mem_of_getElem? hafter

/-- A symbol is treated exactly if it is relevant and the symbols before it could be taken. -/
theorem treated_iff (hindexed : Indexed symbols) (hplain : Plain stubs) {i : ℕ} :
    Treated sectionIndex expected symbols stubs i ↔
      (∃ symbol, symbols[i]? = some symbol ∧ isRelevant sectionIndex symbol = true) ∧
        Reached sectionIndex expected symbols stubs i := by
  constructor
  · rintro (⟨hget, hmem, hsymbol⟩ | ⟨hreached, hfailed⟩)
    · exact ⟨⟨_, hget, (mem_of_attached hplain hmem hsymbol).2⟩,
        reached_of_attached hindexed hplain hget hmem hsymbol⟩
    · refine ⟨?_, hreached⟩
      obtain ⟨middle, count, hrun⟩ := hreached
      cases hget : symbols[i]? with
      | none =>
        rw [List.take_add_one, hget, Option.toList_none, List.append_nil, hrun] at hfailed
        cases hfailed
      | some symbol =>
        refine ⟨symbol, rfl, ?_⟩
        by_contra hrelevant
        rw [correlate_take_succ hget hrun, correlate, if_neg hrelevant] at hfailed
        cases hfailed
  · rintro ⟨⟨symbol, hget, hrelevant⟩, hreached⟩
    exact treated_of_reached hget hrelevant hreached

open Payload

variable {table : Payload} {tables : List Payload} {k i : ℕ}

/-- The symbol at a position is of a section: its entry has the number of the section and this is
not a reserved number, or its entry is marked and an index table has the number of the section for
it. -/
def DefinedIn (table : Payload) (tables : List Payload) (k i : ℕ) : Prop :=
  table.rawIndex i < 0xFF00 ∧ table.rawIndex i = k ∨
    table.rawIndex i = 0xFFFF ∧ ∃ other ∈ tables, other.indexAt i = some k

/-- The symbol has a reserved number that no index table replaces, and a section has the same
number. -/
structure Collides (table : Payload) (tables : List Payload) (k i : ℕ) : Prop where
  reserved : 0xFF00 ≤ table.rawIndex i
  rawIndex_eq : table.rawIndex i = k
  no_entry : table.rawIndex i = 0xFFFF → ∀ other ∈ tables, other.indexAt i = none

theorem Collides.not_definedIn (h : Collides table tables k i) : ¬DefinedIn table tables k i := by
  rintro (⟨hlt, _⟩ | ⟨hmark, other, hmem, hentry⟩)
  · exact Nat.not_lt.mpr h.reserved hlt
  · rw [h.no_entry hmark other hmem] at hentry
    cases hentry

theorem Collides.finalIndex_eq (h : Collides table tables k i) :
    Symbol.finalIndex (table.rawIndex i) (tables.filterMap (indexAt · i)) = k := by
  unfold Symbol.finalIndex Symbol.extendedMark
  split_ifs with hmark
  · have hnil : tables.filterMap (indexAt · i) = [] :=
      List.filterMap_eq_nil_iff.mpr (h.no_entry (by omega))
    have hindex := h.rawIndex_eq
    rw [hnil, List.find?_nil, Option.getD_none]
    omega
  · rw [h.rawIndex_eq]

/-- A symbol with the number of a section is of this section, or it collides with it. -/
theorem definedIn_or_collides
    (h : Symbol.finalIndex (table.rawIndex i) (tables.filterMap (indexAt · i)) = k) :
    DefinedIn table tables k i ∨ Collides table tables k i := by
  unfold Symbol.finalIndex Symbol.extendedMark at h
  split_ifs at h with hmark
  · have hmark : table.rawIndex i = 0xFFFF := by omega
    cases hfind : (tables.filterMap (indexAt · i)).find? (· ≠ 0xFFFF) with
    | some index =>
      rw [hfind, Option.getD_some] at h
      obtain rfl := Int.ofNat_inj.mp h
      obtain ⟨other, hmem, hentry⟩ := List.mem_filterMap.mp (List.mem_of_find?_eq_some hfind)
      exact .inl (.inr ⟨hmark, other, hmem, hentry⟩)
    | none =>
      rw [hfind, Option.getD_none] at h
      obtain rfl := Int.ofNat_inj.mp h
      by_cases hnone : ∀ other ∈ tables, other.indexAt i = none
      · exact .inr ⟨by omega, hmark, fun _ => hnone⟩
      -- every entry for the symbol is the mark itself, which is then the number of the section
      push Not at hnone
      obtain ⟨other, hmem, hne⟩ := hnone
      obtain ⟨index, hentry⟩ := Option.ne_none_iff_exists'.mp hne
      have hindex :=
        List.find?_eq_none.mp hfind index (List.mem_filterMap.mpr ⟨other, hmem, hentry⟩)
      obtain rfl : index = 0xFFFF := by simpa using hindex
      exact .inl (.inr ⟨hmark, other, hmem, hentry⟩)
  · have hindex : table.rawIndex i = k := Int.ofNat_inj.mp h
    by_cases hlt : table.rawIndex i < 0xFF00
    · exact .inl (.inl ⟨hlt, hindex⟩)
    · exact .inr ⟨Nat.not_lt.mp hlt, hindex, fun hmark' => absurd (congrArg Nat.cast hmark') hmark⟩

theorem indexed_extend {names : ℕ → Except ReadError Text} {symbols : List Symbol}
    (hload : table.symbols names = .ok symbols) (tables : List Payload) :
    Indexed (extend symbols tables) := by
  intro i symbol hget
  rw [extend_getElem?, Option.map_eq_some_iff] at hget
  obtain ⟨loaded, hloaded, rfl⟩ := hget
  exact (symbols_eq_ok hload hloaded).1

/-- A symbol is relevant after the index tables if it is a global function or object and the number
it ends with is the number of the section. -/
theorem isRelevant_extend {names : ℕ → Except ReadError Text} {symbols : List Symbol}
    (hload : table.symbols names = .ok symbols) {symbol : Symbol}
    (hget : symbols[i]? = some symbol) :
    (∃ final, (extend symbols tables)[i]? = some final ∧ isRelevant k final = true) ↔
      symbol.binding = .globalBinding ∧ symbol.kind ≠ .other ∧
        Symbol.finalIndex (table.rawIndex i) (tables.filterMap (indexAt · i)) = k := by
  rw [extend_getElem?, hget, Option.map_some]
  constructor
  · rintro ⟨final, hfinal, hrelevant⟩
    obtain rfl := Option.some.inj hfinal
    obtain ⟨hbinding, hkind, hindex⟩ := isRelevant_iff.mp hrelevant
    rcases (symbols_eq_ok hload hget).2 with rfl | hraw
    · cases hbinding
    · rw [← hraw]
      exact ⟨hbinding, hkind, hindex⟩
  · rintro ⟨hbinding, hkind, hindex⟩
    refine ⟨_, rfl, isRelevant_iff.mpr ⟨hbinding, hkind, ?_⟩⟩
    rcases (symbols_eq_ok hload hget).2 with rfl | hraw
    · cases hbinding
    · rw [← hraw] at hindex
      exact hindex

/-- Only symbols of the section are treated. -/
def OnlyDefined (table : Payload) (tables : List Payload) (k : ℕ) (expected : SymbolKind)
    (symbols : List Symbol) (stubs : List Stub) : Prop :=
  ∀ i, Treated k expected (extend symbols tables) stubs i → DefinedIn table tables k i

/-- No global function or object that is reached collides with the section. -/
def CollisionFree (table : Payload) (tables : List Payload) (k : ℕ) (expected : SymbolKind)
    (symbols : List Symbol) (stubs : List Stub) : Prop :=
  ∀ (i : ℕ) (symbol : Symbol), symbols[i]? = some symbol → symbol.binding = .globalBinding →
    symbol.kind ≠ .other →
    Reached k expected (extend symbols tables) stubs i → ¬Collides table tables k i

/-- Only symbols of the stub section are treated, unless one collides with it. This takes a section
whose number is among the reserved ones. -/
theorem onlyDefined_iff_collisionFree {names : ℕ → Except ReadError Text} {symbols : List Symbol}
    (hload : table.symbols names = .ok symbols) (hplain : Plain stubs) :
    (OnlyDefined table tables k expected symbols stubs ↔
      CollisionFree table tables k expected symbols stubs) ∧
      (k < 0xFF00 ∨ 0xFFFF < k → OnlyDefined table tables k expected symbols stubs) := by
  have hindexed := indexed_extend hload tables
  have htreated : ∀ {i}, Treated k expected (extend symbols tables) stubs i →
      ∃ symbol, symbols[i]? = some symbol ∧ symbol.binding = .globalBinding ∧
        symbol.kind ≠ .other ∧ Reached k expected (extend symbols tables) stubs i ∧
        (DefinedIn table tables k i ∨ Collides table tables k i) := by
    intro i h
    obtain ⟨hrelevant, hreached⟩ := (treated_iff hindexed hplain).mp h
    have hloaded : ∃ symbol, symbols[i]? = some symbol := by
      obtain ⟨final, hfinal, _⟩ := hrelevant
      rw [extend_getElem?, Option.map_eq_some_iff] at hfinal
      obtain ⟨symbol, hget, _⟩ := hfinal
      exact ⟨symbol, hget⟩
    obtain ⟨symbol, hget⟩ := hloaded
    obtain ⟨hbinding, hkind, hindex⟩ := (isRelevant_extend hload hget).mp hrelevant
    exact ⟨symbol, hget, hbinding, hkind, hreached, definedIn_or_collides hindex⟩
  refine ⟨⟨?_, ?_⟩, ?_⟩
  · intro hall i symbol hget hbinding hkind hreached hcollides
    have hrelevant := (isRelevant_extend hload hget).mpr ⟨hbinding, hkind, hcollides.finalIndex_eq⟩
    exact hcollides.not_definedIn (hall i ((treated_iff hindexed hplain).mpr ⟨hrelevant, hreached⟩))
  · intro hfree i h
    obtain ⟨symbol, hget, hbinding, hkind, hreached, hdefined | hcollides⟩ := htreated h
    · exact hdefined
    · exact absurd hcollides (hfree i symbol hget hbinding hkind hreached)
  · intro hrange i h
    obtain ⟨_, _, _, _, _, hdefined | hcollides⟩ := htreated h
    · exact hdefined
    · have hreserved := hcollides.reserved
      have hindex := hcollides.rawIndex_eq
      have hlt := Word.at16_lt (i * table.header.entrySize.toNat + 14) table.bytes
      unfold rawIndex at hreserved hindex
      omega

/-- Two global functions, one with the number for absolute values and one whose number is marked as
held elsewhere. -/
def reservedTable : Payload :=
  whole { type := 2, size := 48, info := 1, entrySize := 16 }
    ([0, 0, 0, 0, 0, 0x1000, 0, 0xFFF10012, 0, 0x1010, 0, 0xFFFF0012].flatMap (Word.toBytes 4))
      (by decide)

def reservedIndexes : Payload :=
  whole { type := 18, size := 12, entrySize := 4 } ([0, 0, 0xFFF1].flatMap (Word.toBytes 4))
    (by decide)

def reservedSymbols : List Symbol :=
  [.placeholder 0,
    { index := 1, value := 0x1000, kind := .function, binding := .globalBinding,
      sectionIndex := 0xFFF1, rawType := 2,
      rawBinding := 1 },
    { index := 2, value := 0x1010, kind := .function, binding := .globalBinding,
      sectionIndex := 0xFFFF, rawType := 2,
      rawBinding := 1 }]

theorem reservedTable_symbols : reservedTable.symbols (fun _ => .ok []) = .ok reservedSymbols := by
  decide +kernel

def reservedStubs : List Stub :=
  [{ kind := .functionStub, address := 0x1000 }, { kind := .functionStub, address := 0x1010 }]

theorem plain_reservedStubs : Plain reservedStubs := by
  simp [Plain, reservedStubs]

theorem onlyDefined_reserved :
    reservedTable.symbols (fun _ => .ok []) = .ok reservedSymbols ∧ Plain reservedStubs ∧
    (OnlyDefined reservedTable [reservedIndexes] 0xFFF1 .function reservedSymbols reservedStubs ↔
      CollisionFree reservedTable [reservedIndexes] 0xFFF1 .function reservedSymbols
        reservedStubs) ∧
    OnlyDefined reservedTable [reservedIndexes] 1 .function reservedSymbols reservedStubs :=
  ⟨reservedTable_symbols, plain_reservedStubs,
    (onlyDefined_iff_collisionFree reservedTable_symbols plain_reservedStubs).1,
    (onlyDefined_iff_collisionFree reservedTable_symbols plain_reservedStubs).2 (.inl (by decide))⟩

/-- An absolute symbol names a stub of section 0xFFF1, and a marked symbol without an index table
one of section 0xFFFF. -/
theorem reserved_treated : reservedTable.symbols (fun _ => .ok []) = .ok reservedSymbols ∧
    (Treated 0xFFF1 .function (extend reservedSymbols []) reservedStubs 1 ∧
      ¬DefinedIn reservedTable [] 0xFFF1 1) ∧
    (Treated 0xFFFF .function (extend reservedSymbols []) reservedStubs 2 ∧
      ¬DefinedIn reservedTable [] 0xFFFF 2) := by
  have habsolute : Collides reservedTable [] 0xFFF1 1 := ⟨by decide, by decide, by simp⟩
  have hmarked : Collides reservedTable [] 0xFFFF 2 := ⟨by decide, by decide, by simp⟩
  refine ⟨reservedTable_symbols, ⟨?_, habsolute.not_definedIn⟩, ⟨?_, hmarked.not_definedIn⟩⟩
  · exact .attached rfl List.mem_cons_self rfl
  · exact .attached rfl (List.mem_cons_of_mem _ List.mem_cons_self) rfl

end ImportStubs.Correlation
