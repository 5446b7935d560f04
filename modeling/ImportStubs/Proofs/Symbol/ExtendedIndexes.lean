import ImportStubs.Symbol.Table
import Mathlib.Tactic.Common

/-!
# Section indexes that are held elsewhere

An index table gives its entry to a symbol only while the symbol carries the mark. After several
tables the section index is the first entry that is not the mark itself, whatever the later tables
say.
-/

namespace ImportStubs.Symbol

/-- The symbol after an index table that holds the entry for it, if any. -/
def taking (symbol : Symbol) (entry : Option ℕ) : Symbol :=
  match entry with
  | some index =>
    if symbol.sectionIndex = extendedMark then { symbol with sectionIndex := index } else symbol
  | none => symbol

def entryAt (records : List Record) (i : ℕ) : Option ℕ :=
  records[i]?.map fun record => Word.at32 0 record.bytes

/-- Every symbol takes the entry at its position; a fault of the table changes no symbol. -/
theorem extendFrom_getElem? (fault : Option LoadFault) (symbols : List Symbol)
    (records : List Record) (i : ℕ) :
    (extendFrom fault symbols records).1[i]? = symbols[i]?.map (·.taking (entryAt records i)) := by
  induction symbols generalizing records i with
  | nil => cases records <;> rfl
  | cons symbol symbols ih =>
    cases records with
    | nil => cases h : (symbol :: symbols)[i]? <;> simp [extendFrom, entryAt, taking, h]
    | cons record records =>
      rw [extendFrom]
      cases i with
      | zero =>
        dsimp only
        split_ifs with hmark <;> simp [entryAt, taking, hmark]
      | succ i =>
        have ih := ih records i
        dsimp only
        split_ifs <;> simpa [entryAt] using ih

theorem length_extendFrom (fault : Option LoadFault) (symbols : List Symbol)
    (records : List Record) :
    (extendFrom fault symbols records).1.length = symbols.length := by
  induction symbols generalizing records with
  | nil => cases records <;> rfl
  | cons symbol symbols ih =>
    cases records with
    | nil => rfl
    | cons record records =>
      rw [extendFrom]
      dsimp only
      split_ifs <;> simp [ih]

/-- The section index that a marked symbol ends with, by the entries that the tables hold for it in
order. -/
def finalIndex (index : Int) (entries : List ℕ) : Int :=
  if index = extendedMark then ((entries.find? (· ≠ 0xFFFF)).getD 0xFFFF : ℕ) else index

theorem foldl_taking (symbol : Symbol) (entries : List (Option ℕ)) :
    entries.foldl taking symbol =
      { symbol with sectionIndex := finalIndex symbol.sectionIndex (entries.filterMap id) } := by
  induction entries generalizing symbol with
  | nil =>
    have hindex : finalIndex symbol.sectionIndex [] = symbol.sectionIndex := by
      unfold finalIndex
      split_ifs with hmark
      · rw [hmark]
        rfl
      · rfl
    rw [List.foldl_nil, List.filterMap_nil, hindex]
  | cons entry entries ih =>
    rw [List.foldl_cons, ih]
    cases entry with
    | none => rfl
    | some index =>
      have hentries : (some index :: entries).filterMap id = index :: entries.filterMap id := rfl
      rw [hentries]
      unfold taking finalIndex
      by_cases hmark : symbol.sectionIndex = extendedMark
      · by_cases hindex : index = 0xFFFF
        · simp [hmark, hindex, extendedMark]
        · have hne : (index : Int) ≠ extendedMark := by
            unfold extendedMark
            omega
          simp [hmark, hindex, hne]
      · simp [hmark]

def extendAll (symbols : List Symbol) (tables : List (List Record)) : List Symbol :=
  tables.foldl (fun symbols records => (extendFrom none symbols records).1) symbols

theorem length_extendAll (symbols : List Symbol) (tables : List (List Record)) :
    (extendAll symbols tables).length = symbols.length := by
  unfold extendAll
  induction tables generalizing symbols with
  | nil => rfl
  | cons records tables ih => rw [List.foldl_cons, ih, length_extendFrom]

/-- After all tables a symbol differs from the one before in its section index only. -/
theorem extendAll_getElem? (symbols : List Symbol) (tables : List (List Record)) (i : ℕ) :
    (extendAll symbols tables)[i]? = symbols[i]?.map fun symbol =>
      { symbol with
        sectionIndex :=
          finalIndex symbol.sectionIndex (tables.filterMap fun records => entryAt records i) } := by
  have hfold : ∀ symbols : List Symbol, (extendAll symbols tables)[i]? =
      symbols[i]?.map ((tables.map fun records => entryAt records i).foldl taking) := by
    unfold extendAll
    induction tables with
    | nil => simp
    | cons records tables ih =>
      intro symbols
      rw [List.foldl_cons, ih, extendFrom_getElem?, Option.map_map]
      rfl
  rw [hfold]
  congr 1
  funext symbol
  rw [foldl_taking, List.filterMap_map]
  rfl

end ImportStubs.Symbol
