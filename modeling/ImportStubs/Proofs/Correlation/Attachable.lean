import ImportStubs.Proofs.Correlation.Attachment
import ImportStubs.Proofs.Except
import Mathlib.Data.List.Perm.Basic

/-!
# Which symbols can all be attached

The symbols are taken one after the other, and each changes a stub. Whether all can be attached does
not depend on their order: each needs the expected kind and a stub of its own at its value, and the
first stub there must not have a symbol to begin with.
-/

namespace ImportStubs.Correlation

/-- The symbols that name a stub of the section. -/
def relevant (sectionIndex : Int) (symbols : List Symbol) : List Symbol :=
  symbols.filter (isRelevant sectionIndex)

/-- The position of the first stub at an address. -/
def firstAt (stubs : List Stub) (address : Int) : Option ℕ :=
  stubs.findIdx? fun stub => decide (stub.address = address)

/-- There is a stub at the address, and the first one there has no symbol. -/
def IsFree (stubs : List Stub) (address : Int) : Prop :=
  ∃ p stub, firstAt stubs address = some p ∧ stubs[p]? = some stub ∧ stub.symbol = none

/-- All symbols that name a stub of the section can be attached. -/
structure Attachable (sectionIndex : Int) (expected : SymbolKind) (stubs : List Stub)
    (symbols : List Symbol) : Prop where
  kind_eq : ∀ symbol ∈ relevant sectionIndex symbols, symbol.kind = expected
  free : ∀ symbol ∈ relevant sectionIndex symbols, IsFree stubs symbol.value
  distinct : (relevant sectionIndex symbols).Pairwise fun a b => a.value ≠ b.value

/-- Some stubs after every symbol was attached to the first stub at its value. -/
structure Named (sectionIndex : Int) (symbols : List Symbol) (stubs final : List Stub) : Prop where
  length_eq : final.length = stubs.length
  attached : ∀ symbol ∈ relevant sectionIndex symbols, ∀ p,
    firstAt stubs symbol.value = some p →
      final[p]? = stubs[p]?.map fun stub => { stub with symbol := some symbol }
  unchanged : ∀ p, (∀ symbol ∈ relevant sectionIndex symbols,
    firstAt stubs symbol.value ≠ some p) → final[p]? = stubs[p]?

variable {sectionIndex : Int} {expected : SymbolKind} {symbol : Symbol} {symbols rest : List Symbol}
  {stubs placed final : List Stub}

theorem firstAt_cons (stub : Stub) (stubs : List Stub) (address : Int) :
    firstAt (stub :: stubs) address =
      if stub.address = address then some 0 else (firstAt stubs address).map (· + 1) := by
  simp [firstAt, List.findIdx?_cons]

theorem firstAt_eq_none_iff {address : Int} :
    firstAt stubs address = none ↔ ∀ stub ∈ stubs, stub.address ≠ address := by
  simp [firstAt, List.findIdx?_eq_none_iff]

theorem exists_of_firstAt {address : Int} {p : ℕ} (h : firstAt stubs address = some p) :
    ∃ stub, stubs[p]? = some stub ∧ stub.address = address := by
  obtain ⟨hp, haddress, -⟩ := List.findIdx?_eq_some_iff_getElem.mp h
  exact ⟨stubs[p], List.getElem?_eq_getElem hp, by simpa using haddress⟩

/-- Where the first stub is depends on the addresses only. -/
theorem firstAt_congr {other : List Stub}
    (h : ∀ p : ℕ, other[p]?.map Stub.address = stubs[p]?.map Stub.address) (address : Int) :
    firstAt other address = firstAt stubs address := by
  have hmap : ∀ stubs : List Stub,
      firstAt stubs address = (stubs.map Stub.address).findIdx? fun a => decide (a = address) := by
    intro stubs
    simp [firstAt, List.findIdx?_map, Function.comp_def]
  have haddresses : other.map Stub.address = stubs.map Stub.address := by
    apply List.ext_getElem?
    simpa using h
  rw [hmap, hmap, haddresses]

theorem attach_of_firstAt_eq_none (h : firstAt stubs symbol.value = none) :
    attach sectionIndex symbol stubs =
      .error (.ofFault none (.danglingStubSymbol symbol.name sectionIndex symbol.value)) := by
  induction stubs with
  | nil => rw [attach]
  | cons stub stubs ih =>
    rw [firstAt_cons] at h
    split_ifs at h with haddress
    rw [attach, if_neg haddress, ih (by simpa using h), Except.map]

/-- The first stub at the value of a symbol takes the symbol, or is the fault if it has one. -/
theorem attach_of_firstAt {p : ℕ} {stub : Stub} (h : firstAt stubs symbol.value = some p)
    (hget : stubs[p]? = some stub) :
    attach sectionIndex symbol stubs =
      match stub.symbol with
      | some other =>
        .error (.ofFault none
          (.duplicateStubSymbol symbol.value sectionIndex other.name symbol.name))
      | none => .ok (stubs.set p { stub with symbol := some symbol }) := by
  induction stubs generalizing p with
  | nil => simp at hget
  | cons first stubs ih =>
    rw [firstAt_cons] at h
    rw [attach]
    split_ifs at h with haddress
    · obtain rfl := Option.some.inj h
      obtain rfl := Option.some.inj hget
      rw [if_pos haddress]
      cases first.symbol with
      | none => rfl
      | some other => rfl
    · obtain ⟨q, hq, rfl⟩ := Option.map_eq_some_iff.mp h
      rw [if_neg haddress, ih hq (by simpa using hget)]
      cases stub.symbol <;> rfl

/-- The effect of one symbol: it is attached to the first stub at its value. -/
structure Places (expected : SymbolKind) (symbol : Symbol) (stubs placed : List Stub) (p : ℕ)
    (stub : Stub) : Prop where
  kind_eq : symbol.kind = expected
  first : firstAt stubs symbol.value = some p
  get : stubs[p]? = some stub
  free : stub.symbol = none
  placed_eq : placed = stubs.set p { stub with symbol := some symbol }

theorem place_eq_ok_iff : place sectionIndex expected symbol stubs = .ok placed ↔
    ∃ p stub, Places expected symbol stubs placed p stub := by
  constructor
  · intro h
    obtain ⟨hkind, hattach⟩ := place_eq_ok h
    cases hfirst : firstAt stubs symbol.value with
    | none =>
      rw [attach_of_firstAt_eq_none hfirst] at hattach
      cases hattach
    | some p =>
      obtain ⟨stub, hget, -⟩ := exists_of_firstAt hfirst
      rw [attach_of_firstAt hfirst hget] at hattach
      cases hsymbol : stub.symbol with
      | some other =>
        rw [hsymbol] at hattach
        cases hattach
      | none =>
        rw [hsymbol] at hattach
        exact ⟨p, stub, hkind, hfirst, hget, hsymbol, (Except.ok.inj hattach).symm⟩
  · rintro ⟨p, stub, hkind, hfirst, hget, hfree, rfl⟩
    rw [place, if_neg (not_not.mpr hkind), attach_of_firstAt hfirst hget, hfree]

namespace Places

variable {p : ℕ} {stub : Stub} (h : Places expected symbol stubs placed p stub)
include h

theorem get_self : placed[p]? = some { stub with symbol := some symbol } := by
  rw [h.placed_eq, List.getElem?_set_self (List.getElem?_eq_some_iff.mp h.get).1]

theorem get_ne {q : ℕ} (hq : q ≠ p) : placed[q]? = stubs[q]? := by
  rw [h.placed_eq, List.getElem?_set_ne hq.symm]

theorem firstAt_eq (address : Int) : firstAt placed address = firstAt stubs address := by
  apply firstAt_congr
  intro q
  by_cases hq : q = p
  · rw [hq, h.get_self, h.get]
    rfl
  · rw [h.get_ne hq]

theorem isFree : IsFree stubs symbol.value := ⟨p, stub, h.first, h.get, h.free⟩

/-- Other values have other first stubs. -/
theorem firstAt_ne {value : Int} (hvalue : value ≠ symbol.value) :
    firstAt stubs value ≠ some p := by
  intro hfirst
  obtain ⟨other, hother, haddress⟩ := exists_of_firstAt hfirst
  obtain ⟨found, hfound, hvalue'⟩ := exists_of_firstAt h.first
  rw [hfound] at hother
  obtain rfl := Option.some.inj hother
  exact hvalue (haddress.symm.trans hvalue')

/-- Afterwards the same stubs are free, but for the one that the symbol took: so symbols that are
taken one after the other need distinct values. -/
theorem isFree_iff {value : Int} :
    IsFree placed value ↔ IsFree stubs value ∧ value ≠ symbol.value := by
  constructor
  · rintro ⟨q, other, hfirst, hget, hfree⟩
    rw [h.firstAt_eq] at hfirst
    have hq : q ≠ p := by
      rintro rfl
      rw [h.get_self] at hget
      obtain rfl := Option.some.inj hget
      cases hfree
    rw [h.get_ne hq] at hget
    refine ⟨⟨q, other, hfirst, hget, hfree⟩, ?_⟩
    rintro rfl
    exact hq (Option.some.inj (hfirst.symm.trans h.first))
  · rintro ⟨⟨q, other, hfirst, hget, hfree⟩, hvalue⟩
    have hq : q ≠ p := by
      rintro rfl
      exact h.firstAt_ne hvalue hfirst
    refine ⟨q, other, ?_, ?_, hfree⟩
    · rw [h.firstAt_eq, hfirst]
    · rw [h.get_ne hq, hget]

end Places

theorem relevant_cons_of_pos (h : isRelevant sectionIndex symbol = true) (rest : List Symbol) :
    relevant sectionIndex (symbol :: rest) = symbol :: relevant sectionIndex rest :=
  List.filter_cons_of_pos h

theorem relevant_cons_of_neg (h : ¬isRelevant sectionIndex symbol = true) (rest : List Symbol) :
    relevant sectionIndex (symbol :: rest) = relevant sectionIndex rest :=
  List.filter_cons_of_neg h

/-- The symbols after the first one meet the stubs that it left. -/
theorem attachable_cons_iff {p : ℕ} {stub : Stub}
    (hrelevant : isRelevant sectionIndex symbol = true)
    (h : Places expected symbol stubs placed p stub) :
    Attachable sectionIndex expected stubs (symbol :: rest) ↔
      Attachable sectionIndex expected placed rest := by
  constructor
  · rintro ⟨hkind, hfree, hdistinct⟩
    rw [relevant_cons_of_pos hrelevant] at hkind hfree hdistinct
    obtain ⟨hother, hdistinct⟩ := List.pairwise_cons.mp hdistinct
    refine ⟨fun other hmem => hkind other (List.mem_cons_of_mem _ hmem), ?_, hdistinct⟩
    intro other hmem
    exact h.isFree_iff.mpr ⟨hfree other (List.mem_cons_of_mem _ hmem), (hother other hmem).symm⟩
  · rintro ⟨hkind, hfree, hdistinct⟩
    constructor
    · rw [relevant_cons_of_pos hrelevant]
      exact List.forall_mem_cons.mpr ⟨h.kind_eq, hkind⟩
    · rw [relevant_cons_of_pos hrelevant]
      refine List.forall_mem_cons.mpr ⟨h.isFree, ?_⟩
      intro other hmem
      exact (h.isFree_iff.mp (hfree other hmem)).1
    · rw [relevant_cons_of_pos hrelevant]
      refine List.pairwise_cons.mpr ⟨?_, hdistinct⟩
      intro other hmem
      exact (h.isFree_iff.mp (hfree other hmem)).2.symm

theorem attachable_cons_of_neg (h : ¬isRelevant sectionIndex symbol = true) :
    Attachable sectionIndex expected stubs (symbol :: rest) ↔
      Attachable sectionIndex expected stubs rest := by
  constructor <;> rintro ⟨hkind, hfree, hdistinct⟩
  · rw [relevant_cons_of_neg h] at hkind hfree hdistinct
    exact ⟨hkind, hfree, hdistinct⟩
  · rw [← relevant_cons_of_neg h rest] at hkind hfree hdistinct
    exact ⟨hkind, hfree, hdistinct⟩

theorem attachable_nil : Attachable sectionIndex expected stubs [] := by
  constructor <;> simp [relevant]

/-- A symbol that cannot be attached is an obstacle to any symbols after it. -/
theorem not_attachable_of_place {e : ReadError}
    (hrelevant : isRelevant sectionIndex symbol = true)
    (h : place sectionIndex expected symbol stubs = .error e) :
    ¬Attachable sectionIndex expected stubs (symbol :: rest) := by
  intro hall
  have hmem : symbol ∈ relevant sectionIndex (symbol :: rest) := by
    rw [relevant_cons_of_pos hrelevant]
    exact List.mem_cons_self
  obtain ⟨p, stub, hfirst, hget, hfree⟩ := hall.free symbol hmem
  have hok : place sectionIndex expected symbol stubs =
      .ok (stubs.set p { stub with symbol := some symbol }) :=
    place_eq_ok_iff.mpr ⟨p, stub, hall.kind_eq symbol hmem, hfirst, hget, hfree, rfl⟩
  rw [hok] at h
  cases h

theorem correlate_cons_of_neg (h : ¬isRelevant sectionIndex symbol = true) :
    correlate sectionIndex expected (symbol :: rest) stubs =
      correlate sectionIndex expected rest stubs := by
  rw [correlate, if_neg h]

theorem correlate_cons_of_place (hrelevant : isRelevant sectionIndex symbol = true)
    (h : place sectionIndex expected symbol stubs = .ok placed) :
    correlate sectionIndex expected (symbol :: rest) stubs =
      ((correlate sectionIndex expected rest placed).1,
        (correlate sectionIndex expected rest placed).2.map (· + 1)) := by
  rw [correlate, if_pos hrelevant, h]

theorem correlate_cons_of_refused {e : ReadError}
    (hrelevant : isRelevant sectionIndex symbol = true)
    (h : place sectionIndex expected symbol stubs = .error e) :
    correlate sectionIndex expected (symbol :: rest) stubs = (stubs, .error e) := by
  rw [correlate, if_pos hrelevant, h]

theorem attachable_of_correlate {count : ℕ}
    (h : (correlate sectionIndex expected symbols stubs).2 = .ok count) :
    Attachable sectionIndex expected stubs symbols := by
  induction symbols generalizing stubs count with
  | nil => exact attachable_nil
  | cons symbol rest ih =>
    by_cases hrelevant : isRelevant sectionIndex symbol = true
    · cases hplace : place sectionIndex expected symbol stubs with
      | error e =>
        rw [correlate_cons_of_refused hrelevant hplace] at h
        cases h
      | ok placed =>
        obtain ⟨p, stub, hplaces⟩ := place_eq_ok_iff.mp hplace
        rw [correlate_cons_of_place hrelevant hplace] at h
        obtain ⟨more, hmore, -⟩ := map_eq_ok_iff.mp h
        exact (attachable_cons_iff hrelevant hplaces).mpr (ih hmore)
    · rw [correlate_cons_of_neg hrelevant] at h
      exact (attachable_cons_of_neg hrelevant).mpr (ih h)

/-- Fewer symbols are attached as well. -/
theorem Attachable.sublist {some : List Symbol}
    (h : Attachable sectionIndex expected stubs symbols) (hsome : some.Sublist symbols) :
    Attachable sectionIndex expected stubs some := by
  have hrelevant : (relevant sectionIndex some).Sublist (relevant sectionIndex symbols) :=
    hsome.filter _
  constructor
  · intro symbol hmem
    exact h.kind_eq symbol (hrelevant.mem hmem)
  · intro symbol hmem
    exact h.free symbol (hrelevant.mem hmem)
  · exact h.distinct.sublist hrelevant

theorem named_nil : Named sectionIndex [] stubs stubs := by
  constructor <;> simp [relevant]

theorem Named.cons_of_neg (h : Named sectionIndex rest stubs final)
    (hrelevant : ¬isRelevant sectionIndex symbol = true) :
    Named sectionIndex (symbol :: rest) stubs final := by
  obtain ⟨hlength, hattached, hunchanged⟩ := h
  rw [← relevant_cons_of_neg hrelevant rest] at hattached hunchanged
  exact ⟨hlength, hattached, hunchanged⟩

/-- The first stub at the value of one symbol is changed by no other symbol. -/
theorem Named.cons {p : ℕ} {stub : Stub} (h : Named sectionIndex rest placed final)
    (hrelevant : isRelevant sectionIndex symbol = true)
    (hplaces : Places expected symbol stubs placed p stub)
    (hother : ∀ other ∈ relevant sectionIndex rest, other.value ≠ symbol.value) :
    Named sectionIndex (symbol :: rest) stubs final := by
  have hself : final[p]? = some { stub with symbol := some symbol } := by
    rw [h.unchanged p, hplaces.get_self]
    intro other hmem
    rw [hplaces.firstAt_eq]
    exact hplaces.firstAt_ne (hother other hmem)
  constructor
  · rw [h.length_eq, hplaces.placed_eq, List.length_set]
  · rw [relevant_cons_of_pos hrelevant]
    intro other hmem q hq
    rcases List.mem_cons.mp hmem with rfl | hmem
    · obtain rfl := Option.some.inj (hplaces.first.symm.trans hq)
      rw [hself, hplaces.get]
      rfl
    · have hqp : q ≠ p := by
        rintro rfl
        exact hplaces.firstAt_ne (hother other hmem) hq
      rw [← hplaces.firstAt_eq] at hq
      rw [h.attached other hmem q hq, hplaces.get_ne hqp]
  · rw [relevant_cons_of_pos hrelevant]
    intro q hq
    have hqp : q ≠ p := by
      rintro rfl
      exact hq symbol List.mem_cons_self hplaces.first
    rw [h.unchanged q, hplaces.get_ne hqp]
    intro other hmem
    rw [hplaces.firstAt_eq]
    exact hq other (List.mem_cons_of_mem _ hmem)

/-- Symbols that can be attached all are, each to its own stub. -/
theorem correlate_of_attachable (h : Attachable sectionIndex expected stubs symbols) :
    (correlate sectionIndex expected symbols stubs).2 =
        .ok (relevant sectionIndex symbols).length ∧
      Named sectionIndex symbols stubs (correlate sectionIndex expected symbols stubs).1 := by
  induction symbols generalizing stubs with
  | nil => exact ⟨rfl, named_nil⟩
  | cons symbol rest ih =>
    by_cases hrelevant : isRelevant sectionIndex symbol = true
    · cases hplace : place sectionIndex expected symbol stubs with
      | error e => exact absurd h (not_attachable_of_place hrelevant hplace)
      | ok placed =>
        obtain ⟨p, stub, hplaces⟩ := place_eq_ok_iff.mp hplace
        have hrest := (attachable_cons_iff hrelevant hplaces).mp h
        obtain ⟨hcount, hnamed⟩ := ih hrest
        rw [correlate_cons_of_place hrelevant hplace, hcount, relevant_cons_of_pos hrelevant]
        -- a symbol behind this one needs a free stub, so it has another value
        refine ⟨rfl, hnamed.cons hrelevant hplaces ?_⟩
        intro other hmem
        exact (hplaces.isFree_iff.mp (hrest.free other hmem)).2
    · obtain ⟨hcount, hnamed⟩ := ih ((attachable_cons_of_neg hrelevant).mp h)
      rw [correlate_cons_of_neg hrelevant, hcount, relevant_cons_of_neg hrelevant]
      exact ⟨rfl, hnamed.cons_of_neg hrelevant⟩

theorem correlate_eq_ok (h : Attachable sectionIndex expected stubs symbols) :
    (correlate sectionIndex expected symbols stubs).2 =
      .ok (relevant sectionIndex symbols).length :=
  (correlate_of_attachable h).1

theorem named_correlate (h : Attachable sectionIndex expected stubs symbols) :
    Named sectionIndex symbols stubs (correlate sectionIndex expected symbols stubs).1 :=
  (correlate_of_attachable h).2

/-- Every relevant symbol that could be taken is attached. -/
theorem attached_of_correlate_eq_ok {count : ℕ}
    (h : correlate sectionIndex expected symbols stubs = (final, .ok count))
    (hmem : symbol ∈ symbols) (hrelevant : isRelevant sectionIndex symbol = true) :
    symbol.kind = expected ∧ ∃ stub ∈ final, stub.symbol = some symbol := by
  have hall : Attachable sectionIndex expected stubs symbols :=
    attachable_of_correlate (congrArg Prod.snd h)
  have hnamed := named_correlate hall
  rw [h] at hnamed
  have his : symbol ∈ relevant sectionIndex symbols := List.mem_filter.mpr ⟨hmem, hrelevant⟩
  obtain ⟨p, stub, hfirst, hget, -⟩ := hall.free symbol his
  have hlast := hnamed.attached symbol his p hfirst
  rw [hget] at hlast
  exact ⟨hall.kind_eq symbol his, _, List.mem_of_getElem? hlast, rfl⟩

theorem Named.firstAt_eq (h : Named sectionIndex symbols stubs final) (address : Int) :
    firstAt final address = firstAt stubs address := by
  apply firstAt_congr
  intro p
  by_cases hp : ∃ symbol ∈ relevant sectionIndex symbols, firstAt stubs symbol.value = some p
  · obtain ⟨symbol, hmem, hfirst⟩ := hp
    rw [h.attached symbol hmem p hfirst, Option.map_map]
    rfl
  · push Not at hp
    rw [h.unchanged p hp]

/-- The symbols determine the stubs. -/
theorem Named.eq {other : List Stub} (h : Named sectionIndex symbols stubs final)
    (hother : Named sectionIndex symbols stubs other) : final = other := by
  apply List.ext_getElem?
  intro p
  by_cases hp : ∃ symbol ∈ relevant sectionIndex symbols, firstAt stubs symbol.value = some p
  · obtain ⟨symbol, hmem, hfirst⟩ := hp
    rw [h.attached symbol hmem p hfirst, hother.attached symbol hmem p hfirst]
  · push Not at hp
    rw [h.unchanged p hp, hother.unchanged p hp]

variable {other : List Symbol}

theorem relevant_perm (sectionIndex : Int) (h : other.Perm symbols) :
    (relevant sectionIndex other).Perm (relevant sectionIndex symbols) := List.Perm.filter _ h

theorem Attachable.perm (hall : Attachable sectionIndex expected stubs symbols)
    (h : other.Perm symbols) : Attachable sectionIndex expected stubs other := by
  have hperm := relevant_perm sectionIndex h
  constructor
  · intro symbol hmem
    exact hall.kind_eq symbol (hperm.mem_iff.mp hmem)
  · intro symbol hmem
    exact hall.free symbol (hperm.mem_iff.mp hmem)
  · exact hall.distinct.perm hperm.symm fun hne => hne.symm

theorem Named.perm (hnamed : Named sectionIndex symbols stubs final) (h : other.Perm symbols) :
    Named sectionIndex other stubs final := by
  have hperm := relevant_perm sectionIndex h
  constructor
  · exact hnamed.length_eq
  · intro symbol hmem
    exact hnamed.attached symbol (hperm.mem_iff.mp hmem)
  · intro p hp
    exact hnamed.unchanged p fun symbol hmem => hp symbol (hperm.mem_iff.mpr hmem)

/-- Which symbols are attached, and to which stubs, does not depend on their order. -/
theorem correlate_outcome (sectionIndex : Int) (expected : SymbolKind) (symbols : List Symbol)
    (stubs : List Stub) :
    ((∃ count, (correlate sectionIndex expected symbols stubs).2 = .ok count) ↔
      Attachable sectionIndex expected stubs symbols) ∧
    (∀ count, (correlate sectionIndex expected symbols stubs).2 = .ok count →
      count = (relevant sectionIndex symbols).length ∧
        Named sectionIndex symbols stubs (correlate sectionIndex expected symbols stubs).1) ∧
    ∀ other : List Symbol, other.Perm symbols →
      ((∃ count, (correlate sectionIndex expected other stubs).2 = .ok count) ↔
        ∃ count, (correlate sectionIndex expected symbols stubs).2 = .ok count) ∧
      ∀ count, (correlate sectionIndex expected symbols stubs).2 = .ok count →
        correlate sectionIndex expected other stubs =
          correlate sectionIndex expected symbols stubs := by
  have hiff : ∀ symbols,
      (∃ count, (correlate sectionIndex expected symbols stubs).2 = .ok count) ↔
        Attachable sectionIndex expected stubs symbols := by
    intro symbols
    constructor
    · rintro ⟨count, hcount⟩
      exact attachable_of_correlate hcount
    · intro h
      exact ⟨_, correlate_eq_ok h⟩
  refine ⟨hiff symbols, ?_, ?_⟩
  · intro count hcount
    have hall := attachable_of_correlate hcount
    rw [correlate_eq_ok hall] at hcount
    exact ⟨(Except.ok.inj hcount).symm, named_correlate hall⟩
  · intro other hperm
    constructor
    · rw [hiff, hiff]
      exact ⟨fun hall => hall.perm hperm.symm, fun hall => hall.perm hperm⟩
    · intro count hcount
      have hall := attachable_of_correlate hcount
      have hother := hall.perm hperm
      apply Prod.ext
      · exact (named_correlate hother).eq ((named_correlate hall).perm hperm)
      · rw [correlate_eq_ok hall, correlate_eq_ok hother,
          (relevant_perm sectionIndex hperm).length_eq]

/-- Three stubs, of which the first two share an address and the second has a symbol. -/
def sharedStubs : List Stub :=
  [{ kind := .functionStub, address := 16 },
    { kind := .functionStub, address := 16, symbol := some { name := "earlier", value := 16 } },
    { kind := .functionStub, address := 32 }]

/-- A symbol for each address, and a weak one that no stub is at. -/
def sharedSymbols : List Symbol :=
  [{ index := 1, name := "open", value := 16, kind := .function, binding := .globalBinding,
     sectionIndex := 4 },
    { index := 2, name := "spare", value := 48, kind := .function, binding := .weakBinding,
      sectionIndex := 4 },
    { index := 3, name := "close", value := 32, kind := .function, binding := .globalBinding,
      sectionIndex := 4 }]

theorem correlate_outcome_shared :
    (correlate 4 .function sharedSymbols sharedStubs).2 = .ok 2 ∧
      correlate 4 .function sharedSymbols.reverse sharedStubs =
        correlate 4 .function sharedSymbols sharedStubs := by
  have hcount : (correlate 4 .function sharedSymbols sharedStubs).2 = .ok 2 := rfl
  obtain ⟨-, -, hperm⟩ := correlate_outcome 4 .function sharedSymbols sharedStubs
  exact ⟨hcount, (hperm _ (List.reverse_perm sharedSymbols)).2 2 hcount⟩

end ImportStubs.Correlation
