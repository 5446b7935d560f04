import ImportStubs.Proofs.Correlation.Attachable
import ImportStubs.Proofs.LoadError

/-!
# The symbol that cannot be attached

A correlation that fails does so at one symbol: those before it can all be attached, and those up to
it cannot. What is wrong with that symbol is the error, whatever is wrong with the symbols behind
it, and the stubs are left as the symbols before it made them. The message shows the position of the
section in decimal, so it takes a position that can be shown.
-/

namespace ImportStubs.Correlation

variable {sectionIndex : Int} {expected : SymbolKind} {symbol : Symbol}
  {symbols before after : List Symbol} {stubs final : List Stub} {cause : LoadFault} {e : ReadError}

/-- The first symbol that names a stub of the section such that the symbols up to it cannot all be
attached. -/
structure FirstRefused (sectionIndex : Int) (expected : SymbolKind) (stubs : List Stub)
    (symbols before : List Symbol) (symbol : Symbol) (after : List Symbol) : Prop where
  append_eq : before ++ symbol :: after = symbols
  relevant : isRelevant sectionIndex symbol = true
  refused : ¬Attachable sectionIndex expected stubs (before ++ [symbol])
  first : ∀ front other more, before = front ++ other :: more →
    isRelevant sectionIndex other = true →
      Attachable sectionIndex expected stubs (front ++ [other])

/-- What is wrong with a symbol, given the stubs that the symbols before it left. -/
inductive Refusal (sectionIndex : Int) (expected : SymbolKind) (stubs final : List Stub)
    (before : List Symbol) (symbol : Symbol) : LoadFault → Prop
  | mismatch (kind_ne : symbol.kind ≠ expected) :
      Refusal sectionIndex expected stubs final before symbol
        (.symbolTypeMismatch symbol.name sectionIndex expected symbol.kind)
  | dangling (kind_eq : symbol.kind = expected)
      (address_ne : ∀ stub ∈ stubs, stub.address ≠ symbol.value) :
      Refusal sectionIndex expected stubs final before symbol
        (.danglingStubSymbol symbol.name sectionIndex symbol.value)
  | duplicate {p : ℕ} {start stub : Stub} {other : Symbol} (kind_eq : symbol.kind = expected)
      (first : firstAt stubs symbol.value = some p) (start_eq : stubs[p]? = some start)
      (get : final[p]? = some stub) (carries : stub.symbol = some other)
      (origin : start.symbol = some other ∨
        other ∈ relevant sectionIndex before ∧ other.value = symbol.value) :
      Refusal sectionIndex expected stubs final before symbol
        (.duplicateStubSymbol symbol.value sectionIndex other.name symbol.name)

theorem exists_refused (h : (correlate sectionIndex expected symbols stubs).2 = .error e) :
    ∃ before symbol after count, before ++ symbol :: after = symbols ∧
      isRelevant sectionIndex symbol = true ∧
      correlate sectionIndex expected before stubs =
        ((correlate sectionIndex expected symbols stubs).1, .ok count) ∧
      place sectionIndex expected symbol (correlate sectionIndex expected symbols stubs).1 =
        .error e := by
  induction symbols generalizing stubs with
  | nil => cases h
  | cons first rest ih =>
    by_cases hrelevant : isRelevant sectionIndex first = true
    · cases hplace : place sectionIndex expected first stubs with
      | error other =>
        rw [correlate_cons_of_refused hrelevant hplace] at h ⊢
        obtain rfl := Except.error.inj h
        exact ⟨[], first, rest, 0, rfl, hrelevant, rfl, hplace⟩
      | ok placed =>
        rw [correlate_cons_of_place hrelevant hplace] at h ⊢
        have hrest : (correlate sectionIndex expected rest placed).2 = .error e := by
          cases hresult : (correlate sectionIndex expected rest placed).2 with
          | ok count =>
            rw [hresult] at h
            cases h
          | error other =>
            rw [hresult] at h
            exact h
        obtain ⟨before, symbol, after, count, rfl, hsymbol, hbefore, hlast⟩ := ih hrest
        refine ⟨first :: before, symbol, after, count + 1, rfl, hsymbol, ?_, hlast⟩
        rw [correlate_cons_of_place hrelevant hplace, hbefore]
        rfl
    · rw [correlate_cons_of_neg hrelevant] at h ⊢
      obtain ⟨before, symbol, after, count, rfl, hsymbol, hbefore, hlast⟩ := ih h
      refine ⟨first :: before, symbol, after, count, rfl, hsymbol, ?_, hlast⟩
      rw [correlate_cons_of_neg hrelevant, hbefore]

theorem FirstRefused.of_place {count : ℕ} (hsplit : before ++ symbol :: after = symbols)
    (hrelevant : isRelevant sectionIndex symbol = true)
    (hbefore : correlate sectionIndex expected before stubs = (final, .ok count))
    (hplace : place sectionIndex expected symbol final = .error e) :
    FirstRefused sectionIndex expected stubs symbols before symbol after := by
  refine ⟨hsplit, hrelevant, ?_, ?_⟩
  · intro hall
    have hok := correlate_eq_ok hall
    rw [correlate_append, hbefore] at hok
    dsimp only at hok
    rw [correlate_cons_of_refused hrelevant hplace] at hok
    cases hok
  · rintro front other more rfl _
    have hall : Attachable sectionIndex expected stubs (front ++ other :: more) := by
      apply attachable_of_correlate
      rw [hbefore]
    apply hall.sublist
    simp

theorem FirstRefused.prefix_eq {before' after' more : List Symbol} {symbol' : Symbol}
    (h : FirstRefused sectionIndex expected stubs symbols before symbol after)
    (h' : FirstRefused sectionIndex expected stubs symbols before' symbol' after')
    (hmore : before ++ more = before') : more = [] := by
  cases more with
  | nil => rfl
  | cons other more =>
    -- the earlier one of two such symbols would be attachable for the later one
    subst hmore
    have hsplit := h.append_eq.trans h'.append_eq.symm
    rw [List.append_assoc] at hsplit
    obtain ⟨rfl, -⟩ := List.cons.inj (List.append_cancel_left hsplit)
    exact absurd (h'.first before symbol more rfl h.relevant) h.refused

/-- There is only one such symbol. -/
theorem FirstRefused.unique {before' after' : List Symbol} {symbol' : Symbol}
    (h : FirstRefused sectionIndex expected stubs symbols before symbol after)
    (h' : FirstRefused sectionIndex expected stubs symbols before' symbol' after') :
    before' = before ∧ symbol' = symbol ∧ after' = after := by
  have hbefore : before' = before := by
    rcases List.prefix_or_prefix_of_prefix ⟨_, h.append_eq⟩ ⟨_, h'.append_eq⟩ with
      ⟨more, hmore⟩ | ⟨more, hmore⟩
    · simpa [h.prefix_eq h' hmore] using hmore.symm
    · simpa [h'.prefix_eq h hmore] using hmore
  subst hbefore
  obtain ⟨rfl, rfl⟩ :=
    List.cons.inj (List.append_cancel_left (h'.append_eq.trans h.append_eq.symm))
  exact ⟨rfl, rfl, rfl⟩

/-- A symbol that a stub has in the end was there from the start or is one of the symbols. -/
theorem Named.origin {p : ℕ} {stub start : Stub} {other : Symbol}
    (h : Named sectionIndex symbols stubs final) (hstart : stubs[p]? = some start)
    (hget : final[p]? = some stub) (hcarries : stub.symbol = some other) :
    start.symbol = some other ∨
      other ∈ relevant sectionIndex symbols ∧ other.value = start.address := by
  by_cases hp : ∃ symbol ∈ relevant sectionIndex symbols, firstAt stubs symbol.value = some p
  · obtain ⟨symbol, hmem, hfirst⟩ := hp
    rw [h.attached symbol hmem p hfirst, hstart] at hget
    obtain rfl := Option.some.inj hget
    obtain rfl := Option.some.inj hcarries
    obtain ⟨found, hfound, haddress⟩ := exists_of_firstAt hfirst
    obtain rfl := Option.some.inj (hstart.symm.trans hfound)
    exact .inr ⟨hmem, haddress.symm⟩
  · push Not at hp
    rw [h.unchanged p hp, hstart] at hget
    obtain rfl := Option.some.inj hget
    exact .inl hcarries

/-- Each of the three faults shows the position of the section. -/
theorem Refusal.isShowable_eq (h : Refusal sectionIndex expected stubs final before symbol cause) :
    cause.isShowable = Numeral.isShowable sectionIndex := by
  cases h <;> rfl

theorem exists_refusal_of_place (hnamed : Named sectionIndex before stubs final)
    (h : place sectionIndex expected symbol final = .error e) :
    ∃ cause, Refusal sectionIndex expected stubs final before symbol cause ∧
      e = .ofFault none cause := by
  rw [place] at h
  split_ifs at h with hkind
  · exact ⟨_, .mismatch hkind, (Except.error.inj h).symm⟩
  have hkind := not_not.mp hkind
  cases hfirst : firstAt final symbol.value with
  | none =>
    rw [attach_of_firstAt_eq_none hfirst] at h
    rw [hnamed.firstAt_eq] at hfirst
    exact ⟨_, .dangling hkind (firstAt_eq_none_iff.mp hfirst), (Except.error.inj h).symm⟩
  | some p =>
    obtain ⟨stub, hget, -⟩ := exists_of_firstAt hfirst
    cases hcarries : stub.symbol with
    | none =>
      rw [attach_of_firstAt hfirst hget, hcarries] at h
      cases h
    | some other =>
      rw [attach_of_firstAt hfirst hget, hcarries] at h
      rw [hnamed.firstAt_eq] at hfirst
      obtain ⟨start, hstart, haddress⟩ := exists_of_firstAt hfirst
      have horigin := hnamed.origin hstart hget hcarries
      rw [haddress] at horigin
      exact ⟨_, .duplicate hkind hfirst hstart hget hcarries horigin, (Except.error.inj h).symm⟩

/-- A correlation fails for what is wrong with the first symbol that cannot be attached any more,
and leaves the stubs as the symbols before that one made them. A position of more digits than can be
shown turns the error into the refusal to show it. -/
theorem correlate_failure (h : (correlate sectionIndex expected symbols stubs).2 = .error e) :
    ∃ before symbol after cause,
      FirstRefused sectionIndex expected stubs symbols before symbol after ∧
      (∀ before' symbol' after',
        FirstRefused sectionIndex expected stubs symbols before' symbol' after' →
          before' = before ∧ symbol' = symbol ∧ after' = after) ∧
      Refusal sectionIndex expected stubs (correlate sectionIndex expected symbols stubs).1 before
        symbol cause ∧
      e = (if Numeral.isShowable sectionIndex then .load ⟨cause, none⟩ else .longNumber) ∧
      (∃ count, correlate sectionIndex expected before stubs =
        ((correlate sectionIndex expected symbols stubs).1, .ok count)) ∧
      Named sectionIndex before stubs (correlate sectionIndex expected symbols stubs).1 := by
  obtain ⟨before, symbol, after, count, hsplit, hrelevant, hbefore, hplace⟩ := exists_refused h
  have hfirst := FirstRefused.of_place hsplit hrelevant hbefore hplace
  have hnamed :
      Named sectionIndex before stubs (correlate sectionIndex expected symbols stubs).1 := by
    have hall : Attachable sectionIndex expected stubs before := by
      apply attachable_of_correlate
      rw [hbefore]
    have hnamed := named_correlate hall
    rw [hbefore] at hnamed
    exact hnamed
  obtain ⟨cause, hrefusal, he⟩ := exists_refusal_of_place hnamed hplace
  rw [ReadError.ofFault, hrefusal.isShowable_eq] at he
  exact ⟨before, symbol, after, cause, hfirst, fun _ _ _ h' => hfirst.unique h', hrefusal, he,
    ⟨count, hbefore⟩, hnamed⟩

/-- Two names for the stub at 16, then an object among the functions, then a symbol without a
stub. -/
def aliasSymbols : List Symbol :=
  [{ index := 1, name := "open", value := 16, kind := .function, binding := .globalBinding,
     sectionIndex := 4 },
    { index := 2, name := "alias", value := 16, kind := .function, binding := .globalBinding,
      sectionIndex := 4 },
    { index := 3, name := "errno", value := 32, kind := .object, binding := .globalBinding,
      sectionIndex := 4 },
    { index := 4, name := "bogus", value := 40, kind := .function, binding := .globalBinding,
      sectionIndex := 4 }]

theorem correlate_failure_alias :
    (correlate 4 .function aliasSymbols sharedStubs).2 =
        .error (.load ⟨.duplicateStubSymbol 16 4 "open" "alias", none⟩) ∧
      ∃ before symbol after,
        FirstRefused 4 .function sharedStubs aliasSymbols before symbol after ∧
        Refusal 4 .function sharedStubs (correlate 4 .function aliasSymbols sharedStubs).1 before
          symbol (.duplicateStubSymbol 16 4 "open" "alias") := by
  have hshown : Numeral.isShowable 4 = true := by decide +kernel
  have hfails : (correlate 4 .function aliasSymbols sharedStubs).2 =
      .error (.load ⟨.duplicateStubSymbol 16 4 "open" "alias", none⟩) := by decide +kernel
  obtain ⟨before, symbol, after, cause, hfirst, -, hrefusal, he, -⟩ := correlate_failure hfails
  rw [if_pos hshown] at he
  cases he
  exact ⟨hfails, before, symbol, after, hfirst, hrefusal⟩

end ImportStubs.Correlation
