import ImportStubs.Correlation
import Mathlib.Tactic.Common

/-!
# Symbols attached to stubs

Whatever comes of a correlation, every stub stays as it was or gains one relevant symbol at its
address; a stub that has a symbol keeps it.
-/

namespace ImportStubs.Correlation

/-- The symbol may be attached to the stub. -/
structure Names (sectionIndex : Int) (expected : SymbolKind) (symbol : Symbol) (stub : Stub) :
    Prop where
  relevant : isRelevant sectionIndex symbol = true
  kind_eq : symbol.kind = expected
  value_eq : symbol.value = stub.address

/-- A stub after some symbols were taken. -/
inductive Gains (sectionIndex : Int) (expected : SymbolKind) (symbols : List Symbol) (stub : Stub) :
    Stub → Prop
  | same : Gains sectionIndex expected symbols stub stub
  | attached {symbol : Symbol} (free : stub.symbol = none) (mem : symbol ∈ symbols)
      (names : Names sectionIndex expected symbol stub) :
      Gains sectionIndex expected symbols stub { stub with symbol := some symbol }

variable {sectionIndex : Int} {expected : SymbolKind} {symbol : Symbol} {symbols : List Symbol}
  {stubs final : List Stub}

theorem isRelevant_iff : isRelevant sectionIndex symbol = true ↔
    symbol.binding = .globalBinding ∧ symbol.kind ≠ .other ∧
      symbol.sectionIndex = sectionIndex := by
  simp [isRelevant, and_assoc]

/-- A symbol is attached to a stub at its address that has none. -/
theorem attach_eq_ok (h : attach sectionIndex symbol stubs = .ok final) :
    ∃ p stub, stubs[p]? = some stub ∧ stub.symbol = none ∧ symbol.value = stub.address ∧
      final = stubs.set p { stub with symbol := some symbol } := by
  induction stubs generalizing final with
  | nil => cases h
  | cons stub rest ih =>
    rw [attach] at h
    by_cases haddress : stub.address = symbol.value
    · rw [if_pos haddress] at h
      cases hsymbol : stub.symbol with
      | some other =>
        rw [hsymbol] at h
        cases h
      | none =>
        rw [hsymbol] at h
        cases h
        exact ⟨0, stub, rfl, hsymbol, haddress.symm, rfl⟩
    · rw [if_neg haddress] at h
      cases hrest : attach sectionIndex symbol rest with
      | error cause =>
        rw [hrest] at h
        cases h
      | ok placed =>
        rw [hrest] at h
        cases h
        obtain ⟨p, other, hget, hfree, hvalue, rfl⟩ := ih hrest
        exact ⟨p + 1, other, hget, hfree, hvalue, rfl⟩

theorem place_eq_ok (h : place sectionIndex expected symbol stubs = .ok final) :
    symbol.kind = expected ∧ attach sectionIndex symbol stubs = .ok final := by
  unfold place at h
  split_ifs at h with hkind
  exact ⟨not_not.mp hkind, h⟩

theorem gains_place (hrelevant : isRelevant sectionIndex symbol = true)
    (h : place sectionIndex expected symbol stubs = .ok final) {p : ℕ} {stub : Stub}
    (hget : stubs[p]? = some stub) :
    ∃ after, final[p]? = some after ∧ Gains sectionIndex expected [symbol] stub after := by
  obtain ⟨hkind, hattach⟩ := place_eq_ok h
  obtain ⟨q, other, hother, hfree, hvalue, rfl⟩ := attach_eq_ok hattach
  by_cases hq : q = p
  · subst hq
    obtain rfl := Option.some.inj (hother.symm.trans hget)
    refine ⟨_, ?_, .attached hfree (List.mem_singleton_self symbol) ⟨hrelevant, hkind, hvalue⟩⟩
    rw [List.getElem?_set_self (List.getElem?_eq_some_iff.mp hget).1]
  · refine ⟨stub, ?_, .same⟩
    rw [List.getElem?_set_ne hq, hget]

theorem Gains.mono {stub after : Stub} {more : List Symbol}
    (h : Gains sectionIndex expected symbols stub after)
    (hmem : ∀ symbol ∈ symbols, symbol ∈ more) : Gains sectionIndex expected more stub after := by
  cases h with
  | same => exact .same
  | attached hfree hsymbol hnames => exact .attached hfree (hmem _ hsymbol) hnames

theorem Gains.trans {stub middle after : Stub} (h : Gains sectionIndex expected symbols stub middle)
    (hafter : Gains sectionIndex expected symbols middle after) :
    Gains sectionIndex expected symbols stub after := by
  cases h with
  | same => exact hafter
  | attached hfree hsymbol hnames =>
    cases hafter with
    | same => exact .attached hfree hsymbol hnames
    | attached hfree' _ _ => cases hfree'

/-- A symbol that is attached stays attached. -/
theorem Gains.symbol_eq {stub after : Stub} (h : Gains sectionIndex expected symbols stub after)
    (hsymbol : stub.symbol = some symbol) : after.symbol = some symbol := by
  cases h with
  | same => exact hsymbol
  | attached hfree _ _ =>
    rw [hfree] at hsymbol
    cases hsymbol

theorem gains_correlate {p : ℕ} {stub : Stub} (hget : stubs[p]? = some stub) :
    ∃ after, (correlate sectionIndex expected symbols stubs).1[p]? = some after ∧
      Gains sectionIndex expected symbols stub after := by
  induction symbols generalizing stubs stub with
  | nil => exact ⟨stub, hget, .same⟩
  | cons symbol rest ih =>
    rw [correlate]
    have hrest : ∀ other ∈ rest, other ∈ symbol :: rest := fun other => List.mem_cons_of_mem symbol
    by_cases hrelevant : isRelevant sectionIndex symbol = true
    · rw [if_pos hrelevant]
      cases hplace : place sectionIndex expected symbol stubs with
      | error cause => exact ⟨stub, hget, .same⟩
      | ok placed =>
        obtain ⟨middle, hmiddle, hfirst⟩ := gains_place hrelevant hplace hget
        obtain ⟨after, hafter, hlast⟩ := ih hmiddle
        exact ⟨after, hafter, (hfirst.mono (by simp)).trans (hlast.mono hrest)⟩
    · rw [if_neg hrelevant]
      obtain ⟨after, hafter, hlast⟩ := ih hget
      exact ⟨after, hafter, hlast.mono hrest⟩

theorem length_correlate :
    (correlate sectionIndex expected symbols stubs).1.length = stubs.length := by
  induction symbols generalizing stubs with
  | nil => rfl
  | cons symbol rest ih =>
    rw [correlate]
    split_ifs
    · cases hplace : place sectionIndex expected symbol stubs with
      | error cause => rfl
      | ok placed =>
        obtain ⟨p, stub, _, _, _, rfl⟩ := attach_eq_ok (place_eq_ok hplace).2
        exact ih.trans List.length_set
    · exact ih

/-- Symbols are taken from the stubs that the symbols before them left, unless one of those
failed. -/
theorem correlate_append (xs ys : List Symbol) (stubs : List Stub) :
    correlate sectionIndex expected (xs ++ ys) stubs =
      match correlate sectionIndex expected xs stubs with
      | (middle, .error cause) => (middle, .error cause)
      | (middle, .ok count) =>
        ((correlate sectionIndex expected ys middle).1,
          (correlate sectionIndex expected ys middle).2.map (count + ·)) := by
  induction xs generalizing stubs with
  | nil =>
    rw [List.nil_append, correlate]
    rcases hrun : correlate sectionIndex expected ys stubs with ⟨final, result⟩
    cases result <;> simp [Except.map, hrun]
  | cons symbol rest ih =>
    rw [List.cons_append, correlate, correlate]
    split_ifs with hrelevant
    · cases hplace : place sectionIndex expected symbol stubs with
      | error cause => rfl
      | ok placed =>
        dsimp only
        rw [ih]
        rcases correlate sectionIndex expected rest placed with ⟨middle, result⟩
        cases result with
        | error cause => rfl
        | ok count =>
          dsimp only
          rcases hrun : correlate sectionIndex expected ys middle with ⟨final, last⟩
          cases last <;> simp [Except.map, hrun, Nat.add_right_comm]
    · exact ih stubs

end ImportStubs.Correlation
