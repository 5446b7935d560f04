import ImportStubs.Proofs.Elf.Defects
import ImportStubs.Proofs.Session.Assembly
import ImportStubs.Proofs.Session.Contents
import ImportStubs.Proofs.Session.Frame

/-!
# Which defect an assembly reports

A file can have several defects at once. The assembly looks at the sections in the order of the
table, then at what is missing, then at the index tables, and at last at the symbols of each kind of
stubs; the first defect that it meets decides how it ends. Each step ends by the file alone, given
what has been found before, so the steps in order end by the defects in order.
-/

namespace ImportStubs

theorem Only.exists_iff {holds : ℕ → Prop} {place : Option ℕ} (h : Only holds place) :
    (∃ j, holds j) ↔ place ≠ none := by
  cases h with
  | absent hnone => exact iff_of_false (fun ⟨j, hj⟩ => hnone j hj) (not_not.mpr rfl)
  | present hat _ => exact iff_of_true ⟨_, hat⟩ (Option.some_ne_none _)

theorem Only.holds_of_mem {holds : ℕ → Prop} {place : Option ℕ} (h : Only holds place) {i : ℕ}
    (hi : i ∈ place) : holds i := by
  cases h with
  | absent _ => cases hi
  | present hat _ =>
    obtain rfl := Option.some.inj hi
    exact hat

theorem Only.find?_eq {holds : ℕ → Prop} [DecidablePred holds] {place : Option ℕ}
    (h : Only holds place) {xs : List ℕ} (hmem : ∀ j, holds j → j ∈ xs) :
    xs.find? (fun j => holds j) = place := by
  cases h with
  | absent hnone => exact List.find?_eq_none.mpr fun j _ => by simpa using hnone j
  | present hat heq =>
    cases hfind : xs.find? fun j => holds j with
    | none => exact absurd (List.find?_eq_none.mp hfind _ (hmem _ hat)) (by simpa using hat)
    | some j => rw [heq j (by simpa using List.find?_some hfind)]

namespace Correlation

/-- The category of the fault that a correlation meets, as far as it can be told. -/
def fault? (sectionIndex : Int) (expected : SymbolKind) (symbols : List Symbol)
    (stubs : List Stub) : Option LoadErrorCategory :=
  match (correlate sectionIndex expected symbols stubs).2 with
  | .error (.load e) => some e.fault.category
  | _ => none

variable {sectionIndex : Int} (hshown : Numeral.isShowable sectionIndex = true)

/-- A fault without a path. -/
def IsUnplaced (e : ReadError) : Prop := ∃ cause, e = .load ⟨cause, none⟩

theorem isUnplaced_ofFault {cause : LoadFault} (h : cause.isShowable = true) :
    IsUnplaced (.ofFault none cause) :=
  ⟨cause, ReadError.ofFault_of_isShowable h none⟩

include hshown

theorem failsOnly_attach (symbol : Symbol) (stubs : List Stub) :
    FailsOnly IsUnplaced (attach sectionIndex symbol stubs) := by
  induction stubs with
  | nil => exact failsOnly_error (isUnplaced_ofFault hshown)
  | cons stub rest ih =>
    rw [attach]
    split_ifs
    · cases stub.symbol with
      | none => exact failsOnly_ok _
      | some other => exact failsOnly_error (isUnplaced_ofFault hshown)
    · exact ih.map

theorem failsOnly_place (expected : SymbolKind) (symbol : Symbol) (stubs : List Stub) :
    FailsOnly IsUnplaced (place sectionIndex expected symbol stubs) := by
  rw [place]
  split_ifs
  · exact failsOnly_error (isUnplaced_ofFault hshown)
  · exact failsOnly_attach hshown symbol stubs

theorem failsOnly_correlate (expected : SymbolKind) (symbols : List Symbol) (stubs : List Stub) :
    FailsOnly IsUnplaced (correlate sectionIndex expected symbols stubs).2 := by
  induction symbols generalizing stubs with
  | nil => exact failsOnly_ok 0
  | cons symbol rest ih =>
    rw [correlate]
    split_ifs
    · have hplace := failsOnly_place hshown expected symbol stubs
      cases hplaced : place sectionIndex expected symbol stubs with
      | error e => exact failsOnly_error (hplace e hplaced)
      | ok placed => exact (ih placed).map
    · exact ih stubs

end Correlation

theorem findSome?_cons_eq {α β : Type} (f : α → Option β) (x : α) (xs : List α) :
    (x :: xs).findSome? f = (f x <|> xs.findSome? f) := by
  rw [List.findSome?_cons]
  cases f x <;> rfl

theorem findSome?_filter {α β : Type} (p : α → Prop) [DecidablePred p] (f : α → Option β)
    (xs : List α) :
    (xs.filter fun x => p x).findSome? f = xs.findSome? fun x => if p x then f x else none := by
  induction xs with
  | nil => rfl
  | cons x xs ih =>
    rw [findSome?_cons_eq, ← ih]
    by_cases hx : p x
    · rw [List.filter_cons_of_pos (by simpa using hx), findSome?_cons_eq, if_pos hx]
    · rw [List.filter_cons_of_neg (by simpa using hx), if_neg hx]
      rfl

namespace ElfFile

variable (file : List UInt8)

instance {kind : StubKind} {i : ℕ} : Decidable (HoldsStubs file kind i) :=
  decidable_of_iff (IsSection file i ∧ type file i = SectionType.programBits.number ∧
      name file i = kind.sectionName)
    ⟨fun h => ⟨h.1, h.2.1, h.2.2⟩, fun h => ⟨h.isSection, h.type_eq, h.name_eq⟩⟩

instance {i : ℕ} : Decidable (HoldsSymbols file i) :=
  decidable_of_iff (IsSection file i ∧ type file i = SectionType.symbolTable.number)
    ⟨fun h => ⟨h.1, h.2⟩, fun h => ⟨h.isSection, h.type_eq⟩⟩

/-- The defect of a section with stubs: it is not the first one of its kind, or it does not fit. -/
def stubFault? (kind : StubKind) (i : ℕ) : Option LoadErrorCategory :=
  if ∃ j < i, HoldsStubs file kind j then some .duplicateStubSection
  else malformedUnless (Fits file i)

/-- The defect of a section with symbols: it is not the first one, or it cannot be read. -/
def symbolFault? (t : ℕ) : Option LoadErrorCategory :=
  if ∃ j < t, HoldsSymbols file j then some .multipleSymbolTables
  else malformedUnless (ReadableSymbols file t)

/-- The defect of a section, as far as the sections up to it show. -/
def sectionFault? (i : ℕ) : Option LoadErrorCategory :=
  match StubKind.all.find? fun kind => HoldsStubs file kind i with
  | some kind => stubFault? file kind i
  | none => if HoldsSymbols file i then symbolFault? file i else none

/-- The first section with stubs of a kind. -/
def stubSection? (kind : StubKind) : Option ℕ := (positions file).find? (HoldsStubs file kind ·)

/-- The first section with symbols. -/
def symbolSection? : Option ℕ := (positions file).find? (HoldsSymbols file ·)

/-- The first index table for a symbol table that does not fit. -/
def indexFault? (t : ℕ) : Option LoadErrorCategory :=
  (indexTables file t).findSome? fun x => malformedUnless (Fits file x)

/-- Why the symbols of a table cannot be attached to the stubs of a kind. -/
def correlationFault? (t : ℕ) (kind : StubKind) : Option LoadErrorCategory :=
  (stubSection? file kind).bind fun i =>
    Correlation.fault? i kind.symbolKind (extendedSymbols file t) (stubs file kind i)

/-- The first defect of a file, in the order in which an assembly looks for them. -/
def assemblyFault? : Option LoadErrorCategory :=
  (positions file).findSome? (sectionFault? file) <|>
  (if ∀ kind ∈ StubKind.all, stubSection? file kind = none then some .noStubSections else none) <|>
  match symbolSection? file with
  | none => some .missingSymbolTable
  | some t => indexFault? file t <|> StubKind.all.findSome? (correlationFault? file t)

theorem mem_positions_iff {i : ℕ} : i ∈ positions file ↔ IsSection file i := by
  rw [positions, List.mem_range'_1, IsSection]
  omega

variable {file}

theorem find?_holdsStubs_eq {i : ℕ} (hsection : IsSection file i) :
    (StubKind.all.find? fun kind => HoldsStubs file kind i) =
      Session.stubKind? (header file i) := by
  cases hkind : Session.stubKind? (header file i) with
  | none =>
    refine List.find?_eq_none.mpr fun kind _ => ?_
    rw [decide_eq_true_iff, ← stubKind?_header hsection, hkind]
    exact Option.some_ne_none kind ∘ Eq.symm
  | some kind =>
    have hholds := (stubKind?_header hsection).mp hkind
    cases hfind : StubKind.all.find? fun kind => HoldsStubs file kind i with
    | none =>
      have hmem : kind ∈ StubKind.all := by cases kind <;> decide
      exact absurd (decide_eq_true hholds) (List.find?_eq_none.mp hfind kind hmem)
    | some other =>
      have hother := List.find?_some hfind
      rw [hholds.kind_unique (of_decide_eq_true hother)]

end ElfFile

namespace Session

open ElfFile

variable {α β : Type} {path : Text} {file : List UInt8}

/-- The step ends by a category, whatever was logged before. -/
def Settles (path : Text) (a : Assembly) (fault? : Option LoadErrorCategory) (step : Step α) :
    Prop :=
  ∀ logger, Ends path fault? (perform step a logger).1.1

theorem settles_pure {a : Assembly} (value : α) : Settles path a none (pure value) :=
  fun _ => .ok value

theorem settles_fail {a : Assembly} (cause : LoadFault) :
    Settles path a (some cause.category) (fail cause : Step α) :=
  fun _ => .failed ⟨cause, none⟩ (by simp)

theorem settles_get_bind {a : Assembly} {fault? : Option LoadErrorCategory}
    {next : Assembly → Step β} (h : Settles path a fault? (next a)) :
    Settles path a fault? (get >>= next) := by
  intro logger
  rw [perform_bind, perform_get]
  exact h logger

/-- The first step decides, unless it succeeds. -/
theorem Settles.bind {a : Assembly} {fault? next? : Option LoadErrorCategory} {step : Step α}
    {next : α → Step β} {middle : α → Assembly → Prop} (hstep : Settles path a fault? step)
    (hyields : Yields a step middle)
    (hnext : ∀ value b, middle value b → Settles path b next? (next value)) :
    Settles path a (fault? <|> next?) (step >>= next) := by
  intro logger
  have hends := hstep logger
  rw [perform_bind]
  rcases hrun : perform step a logger with ⟨⟨result, b⟩, inner⟩
  rw [hrun] at hends
  cases hends with
  | ok value => exact hnext value b (hyields hrun) inner
  | failed error hpath => exact .failed error hpath

/-- The first step of a loop that fails decides, where each step keeps an invariant. -/
theorem settles_forM_range' {step : ℕ → Step PUnit} {fault? : ℕ → Option LoadErrorCategory}
    (invariant : ℕ → Assembly → Prop) {start count : ℕ}
    (hyields : ∀ i a, start ≤ i → i < start + count → invariant i a →
      Yields a (step i) fun _ => invariant (i + 1))
    (hstep : ∀ i a, start ≤ i → i < start + count → invariant i a →
      Settles path a (fault? i) (step i))
    {a : Assembly} (h : invariant start a) :
    Settles path a ((List.range' start count).findSome? fault?)
      ((List.range' start count).forM step) := by
  induction count generalizing start a with
  | zero => exact settles_pure PUnit.unit
  | succ count ih =>
    rw [List.range'_succ, findSome?_cons_eq]
    refine (hstep start a (Nat.le_refl start) (by omega) h).bind
      (hyields start a (Nat.le_refl start) (by omega) h) fun _ b hb => ?_
    exact ih (fun i a hle hlt => hyields i a (by omega) (by omega))
      (fun i a hle hlt => hstep i a (by omega) (by omega)) hb

/-- A kind has the number zero exactly if it has no section. -/
theorem StubsFound.index_eq_zero_iff {kind : StubKind} {place : Option ℕ} {index : Int}
    {found : List Stub} (h : StubsFound file kind place index found) (hpos : ∀ i ∈ place, 0 < i) :
    index = 0 ↔ place = none := by
  cases h with
  | absent => exact iff_of_true rfl rfl
  | present _ => exact iff_of_false (Int.natCast_ne_zero_iff_pos.mpr (hpos _ rfl)) (by simp)

theorem SymbolsFound.isSome_iff {place : Option ℕ} {index : Int} {symbols : Option (List Symbol)}
    (h : SymbolsFound file place index symbols) : symbols.isSome ↔ place ≠ none := by
  cases h <;> simp

section

variable {n : ℕ} {a : Assembly} (h : Found file n a)
include h

theorem Found.stubs_seen_iff (kind : StubKind) :
    a.stubSections.get kind ≠ 0 ↔ ∃ j < n, HoldsStubs file kind j := by
  obtain ⟨place, honly, hfound⟩ := h.stubs kind
  rw [honly.exists_iff, not_iff_not]
  exact hfound.index_eq_zero_iff fun i hi => (honly.holds_of_mem hi).2.isSection.1

theorem Found.symbols_seen_iff : a.symbols.isSome ↔ ∃ j < n, HoldsSymbols file j := by
  obtain ⟨place, honly, hfound⟩ := h.symbols
  rw [honly.exists_iff, hfound.isSome_iff]

theorem settles_loadStubs (hpath : a.image.path = path) {kind : StubKind}
    (hholds : HoldsStubs file kind n) :
    Settles path a (stubFault? file kind n) (loadStubs kind (ElfFile.header file n)) := by
  intro logger
  have hdata : type file n ≠ SectionType.noBits.number := by
    rw [hholds.type_eq]
    decide
  have hstubs := h.shows.ends_stubsIn kind hdata
  rw [hpath] at hstubs
  rw [perform_loadStubs kind _ h.readable.pieceSize_nonneg,
    if_congr (h.stubs_seen_iff kind) rfl rfl, stubFault?]
  split_ifs
  · exact .failed ⟨.duplicateStubSection kind, none⟩ (by simp)
  · refine hstubs.transfer (fun found hfound => ?_) fun e he => ?_
    · rw [hfound]
      exact ⟨_, rfl⟩
    · rw [he]

theorem settles_loadSymbols (hpath : a.image.path = path) (hholds : HoldsSymbols file n) :
    Settles path a (symbolFault? file n) (loadSymbols (ElfFile.header file n)) := by
  intro logger
  have hdata : type file n ≠ SectionType.noBits.number := by
    rw [hholds.type_eq]
    decide
  have hsymbols := h.shows.ends_symbolsIn hdata
  rw [hpath] at hsymbols
  obtain ⟨tables, _, hperform⟩ := perform_loadSymbols (ElfFile.header file n) h.readable logger
  rw [hperform, if_congr h.symbols_seen_iff rfl rfl, symbolFault?]
  split_ifs
  · exact .failed ⟨.multipleSymbolTables, none⟩ (by simp)
  · refine hsymbols.transfer (fun found hfound => ?_) fun e he => ?_
    · rw [hfound]
      exact ⟨_, rfl⟩
    · rw [he]

theorem settles_loadSection (hpath : a.image.path = path) (hsection : IsSection file n) :
    Settles path a (sectionFault? file n) (loadSection (ElfFile.header file n)) := by
  unfold loadSection sectionFault?
  rw [find?_holdsStubs_eq hsection]
  cases hkind : stubKind? (ElfFile.header file n) with
  | some kind => exact settles_loadStubs h hpath ((stubKind?_header hsection).mp hkind)
  | none =>
    have hsymbols : (ElfFile.header file n).kind? = some .symbolTable ↔ HoldsSymbols file n :=
      kind?_header.trans ⟨fun htype => ⟨hsection, htype⟩, HoldsSymbols.type_eq⟩
    dsimp only
    rw [if_congr hsymbols rfl rfl]
    split_ifs with hholds
    · exact settles_loadSymbols h hpath hholds
    · exact settles_pure PUnit.unit

end

theorem settles_sections {image : Image} {a : Assembly} (h : Found file 1 a)
    (hretained : Retained image a) :
    Settles image.path a ((positions file).findSome? (sectionFault? file))
      (((positions file).map (ElfFile.header file)).forM loadSection) := by
  rw [List.forM_eq_forM, List.forM_map, positions]
  refine settles_forM_range' (fun i b => Found file i b ∧ Retained image b) ?_ ?_ ⟨h, hretained⟩
  · rintro i b hpos hlt ⟨hb, hretained⟩
    exact (found_loadSection ⟨hpos, by omega⟩ hb).retained (retains_loadSection _) hretained
  · rintro i b hpos hlt ⟨hb, hretained⟩
    exact settles_loadSection hb hretained.path_eq ⟨hpos, by omega⟩

theorem exists_extendFrom_eq_ok (symbols : List Symbol) (records : List Record) :
    ∃ count, (Symbol.extendFrom none symbols records).2 = .ok count := by
  induction symbols generalizing records with
  | nil => cases records <;> exact ⟨0, rfl⟩
  | cons symbol symbols ih =>
    cases records with
    | nil => exact ⟨0, rfl⟩
    | cons record records =>
      obtain ⟨count, hcount⟩ := ih records
      rw [Symbol.extendFrom]
      dsimp only
      split_ifs
      · exact ⟨count + 1, by rw [hcount]; rfl⟩
      · exact ⟨count, hcount⟩

/-- Only an index table for the symbol table is read. -/
def linkedFault? (file : List UInt8) (t x : ℕ) : Option LoadErrorCategory :=
  if link file x = t then malformedUnless (Fits file x) else none

theorem settles_extendSymbols {a : Assembly} (hshows : a.image.Shows file)
    (hreadable : a.image.Readable) {t x : ℕ} (hsection : a.symbolSection = t)
    (htype : type file x = SectionType.extendedIndexes.number) (symbols : List Symbol) :
    Settles a.image.path a (linkedFault? file t x)
      (extendSymbols symbols (ElfFile.header file x)) := by
  intro logger
  have hlink : (ElfFile.header file x).link ≠ a.symbolSection ↔ link file x ≠ t := by
    rw [hsection]
    exact Int.ofNat_inj.not
  rw [perform_extendSymbols symbols _ hreadable.pieceSize_nonneg, if_congr hlink rfl rfl,
    linkedFault?]
  by_cases hother : link file x = t
  · have hdata : type file x ≠ SectionType.noBits.number := by
      rw [htype]
      decide
    rw [if_neg (not_not.mpr hother), if_pos hother]
    refine (hshows.ends_scanOf (show 0 < 4 by decide) hdata).transfer ?_ fun e he => by rw [he]
    intro scan hscan
    obtain ⟨rfl, _⟩ := hshows.scanOf_header (by decide) hdata hscan
    obtain ⟨count, hcount⟩ := exists_extendFrom_eq_ok symbols (records file x 4)
    rw [hscan]
    dsimp only
    rw [hcount]
    exact ⟨_, rfl⟩
  · rw [if_pos hother, if_neg hother]
    exact .ok symbols

theorem settles_extendAll {image : Image} {a : Assembly} (hshows : a.image.Shows file)
    (hretained : Retained image a) {t : ℕ} (hsection : a.symbolSection = t) (xs : List ℕ)
    (htypes : ∀ x ∈ xs, type file x = SectionType.extendedIndexes.number) {symbols : List Symbol}
    (hsymbols : a.symbols = some symbols) :
    Settles image.path a (xs.findSome? (linkedFault? file t))
      ((xs.map (ElfFile.header file)).foldlM extendSymbols symbols) := by
  induction xs generalizing symbols a with
  | nil => exact settles_pure symbols
  | cons x xs ih =>
    have htype := htypes x List.mem_cons_self
    have hstep := settles_extendSymbols hshows hretained.readable hsection htype symbols
    rw [hretained.path_eq] at hstep
    rw [findSome?_cons_eq, List.map_cons, List.foldlM_cons]
    refine hstep.bind ((extended_section hshows hretained.readable hsection htype hsymbols).retained
      (retains_extendSymbols _ _) hretained) ?_
    rintro extended b ⟨⟨rfl, _⟩, hretained⟩
    have hrest : ∀ y ∈ xs, type file y = SectionType.extendedIndexes.number := fun y hy =>
      htypes y (List.mem_cons_of_mem _ hy)
    exact ih (a := { a with symbols := some extended }) hshows hretained hsection hrest rfl

theorem settles_indexTables {image : Image} {a : Assembly} (hshows : a.image.Shows file)
    (hretained : Retained image a) {t : ℕ} (hsection : a.symbolSection = t) {symbols : List Symbol}
    (hsymbols : a.symbols = some symbols) :
    Settles image.path a (indexFault? file t)
      ((((positions file).map (ElfFile.header file)).filter fun s =>
        s.kind? = some .extendedIndexes).foldlM extendSymbols symbols) := by
  rw [filter_kind?_eq, indexFault?, ← filter_link_eq, findSome?_filter]
  refine settles_extendAll hshows hretained hsection _ (fun x hx => ?_) hsymbols
  exact of_decide_eq_true (List.mem_filter.mp hx).2

theorem settles_correlateKind (symbols : List Symbol) {kind : StubKind} {a : Assembly}
    (hshown : Numeral.isShowable (a.stubSections.get kind) = true) :
    Settles path a
      (if a.stubSections.get kind = 0 then none
        else Correlation.fault? (a.stubSections.get kind) kind.symbolKind symbols
          (a.stubs.get kind))
      (correlateKind symbols kind) := by
  intro logger
  rw [perform_correlateKind, Correlation.fault?]
  split_ifs
  · exact .ok ()
  · have hfails := Correlation.failsOnly_correlate hshown kind.symbolKind symbols
      (a.stubs.get kind)
    dsimp only
    cases hresult : (Correlation.correlate (a.stubSections.get kind) kind.symbolKind symbols
      (a.stubs.get kind)).2 with
    | error e =>
      obtain ⟨cause, rfl⟩ := hfails e hresult
      exact .failed ⟨cause, none⟩ (by simp)
    | ok count => exact .ok ()

section

variable {a : Assembly} (h : Found file (1 + (sectionCount file - 1)) a)
include h

/-- After the last section, what was found of a kind is what its first section holds. -/
theorem Found.stubs_eq (kind : StubKind) :
    Only (HoldsStubs file kind) (stubSection? file kind) ∧
      StubsFound file kind (stubSection? file kind) (a.stubSections.get kind)
        (a.stubs.get kind) := by
  obtain ⟨place, honly, hfound⟩ := h.stubs kind
  have honly := only_of_found (fun j hj => hj.isSection) honly
  obtain rfl : stubSection? file kind = place :=
    honly.find?_eq fun j hj => (mem_positions_iff file).mpr hj.isSection
  exact ⟨honly, hfound⟩

theorem Found.symbols_eq :
    SymbolsFound file (symbolSection? file) a.symbolSection a.symbols := by
  obtain ⟨place, honly, hfound⟩ := h.symbols
  have honly := only_of_found (fun j hj => hj.isSection) honly
  obtain rfl : symbolSection? file = place :=
    honly.find?_eq fun j hj => (mem_positions_iff file).mpr hj.isSection
  exact hfound

theorem Found.absent_iff (kind : StubKind) :
    a.stubSections.get kind = 0 ↔ stubSection? file kind = none := by
  obtain ⟨honly, hfound⟩ := h.stubs_eq kind
  exact hfound.index_eq_zero_iff fun i hi => (honly.holds_of_mem hi).isSection.1

theorem Found.isShowable_stubSections (kind : StubKind) :
    Numeral.isShowable (a.stubSections.get kind) = true := by
  obtain ⟨honly, hfound⟩ := h.stubs_eq kind
  generalize a.stubSections.get kind = index at hfound ⊢
  generalize a.stubs.get kind = found at hfound
  generalize stubSection? file kind = place at honly hfound
  cases hfound with
  | absent => exact (isWord_natCast (n := 0) (by decide)).isShowable
  | present _ => exact (isWord_of_isSection file (honly.holds_of_mem rfl).isSection).isShowable

theorem Found.correlationFault?_eq (t : ℕ) (kind : StubKind) :
    correlationFault? file t kind =
      if a.stubSections.get kind = 0 then none
      else Correlation.fault? (a.stubSections.get kind) kind.symbolKind (extendedSymbols file t)
        (a.stubs.get kind) := by
  have habsent := h.absent_iff kind
  have hfound := (h.stubs_eq kind).2
  rw [correlationFault?]
  generalize a.stubSections.get kind = index at habsent hfound ⊢
  generalize a.stubs.get kind = found at hfound ⊢
  generalize stubSection? file kind = place at habsent hfound ⊢
  cases hfound with
  | absent => rfl
  | present _ =>
    rw [if_neg (habsent.not.mpr (Option.some_ne_none _))]
    rfl

/-- The symbols are attached to the stubs of one kind after the other. -/
theorem Found.settles_correlate (t : ℕ) {b : Assembly}
    (hstubSections : b.stubSections = a.stubSections) (hstubs : b.stubs = a.stubs) :
    Settles path b (StubKind.all.findSome? (correlationFault? file t))
      (StubKind.all.forM (correlateKind (extendedSymbols file t))) := by
  have hkind : ∀ kind (c : Assembly), c.stubSections = a.stubSections →
      c.stubs.get kind = a.stubs.get kind →
      Settles path c (correlationFault? file t kind)
        (correlateKind (extendedSymbols file t) kind) := by
    intro kind c hindex hplain
    have hshown : Numeral.isShowable (c.stubSections.get kind) = true := by
      rw [hindex]
      exact h.isShowable_stubSections kind
    have hsettles : Settles path c _ (correlateKind (extendedSymbols file t) kind) :=
      settles_correlateKind (extendedSymbols file t) hshown
    rwa [hindex, hplain, ← h.correlationFault?_eq] at hsettles
  rw [StubKind.all, findSome?_cons_eq, findSome?_cons_eq]
  refine (hkind .functionStub b hstubSections (by rw [hstubs])).bind
    (attached_correlateKind _ _ b) ?_
  rintro _ _ ⟨functions, rfl, _⟩
  have hvars : (b.stubs.set .functionStub functions).get .variableStub =
      a.stubs.get .variableStub := by
    rw [PerKind.get_set, hstubs]
    rfl
  refine (hkind .variableStub { b with stubs := b.stubs.set .functionStub functions } hstubSections
    hvars).bind (attached_correlateKind _ _ _) ?_
  exact fun _ _ _ => settles_pure PUnit.unit

end

theorem settles_assemble {image : Image} (hshows : image.Shows file) (hreadable : image.Readable)
    (hsections : image.sections = (List.range (sectionCount file)).map (ElfFile.header file)) :
    Settles image.path { image } (assemblyFault? file) assemble := by
  have hnamed : image.namedSections = (positions file).map (ElfFile.header file) := by
    rw [Image.namedSections, hsections, ← List.map_drop, List.range_eq_range', List.drop_range',
      positions]
  have hstart := found_start hshows hreadable
  have hretained : Retained image { image } := .start hreadable
  unfold assemble
  refine settles_get_bind ?_
  dsimp only
  rw [hnamed, assemblyFault?]
  refine (settles_sections hstart hretained).bind
    ((found_sections hstart).retained (inherited_retains.forM retains_loadSection _) hretained) ?_
  rintro _ a ⟨hfound, hretained⟩
  refine settles_get_bind ?_
  have habsent : (a.stubSections.functions = 0 ∧ a.stubSections.vars = 0) ↔
      ∀ kind ∈ StubKind.all, stubSection? file kind = none := by
    simp only [StubKind.all, List.forall_mem_cons, ← hfound.absent_iff, List.not_mem_nil,
      false_imp_iff, implies_true, and_true]
    rfl
  rw [if_congr habsent rfl rfl]
  split_ifs
  · exact settles_fail .noStubSections
  have hplace := hfound.symbols_eq
  cases hsymbols : a.symbols with
  | none =>
    rw [hsymbols] at hplace
    rw [hplace.place_eq_none]
    exact settles_fail .missingSymbolTable
  | some symbols =>
    rw [hsymbols] at hplace
    obtain ⟨t, ht, hsection, rfl, _⟩ := hplace.eq_symbols
    rw [ht]
    dsimp only
    refine (settles_indexTables hfound.shows hretained hsection hsymbols).bind
      (extended_indexTables hfound.shows hfound.readable hsection hsymbols) ?_
    rintro extended b ⟨rfl, hextended, _⟩
    rw [hextended]
    exact hfound.settles_correlate t rfl rfl

/-- The assembly of an opened image ends by the first defect of its file, and succeeds if there is
none. -/
theorem assemble_ends {path : Text} {pieceSize : ℕ} {limit : Int} {file : List UInt8}
    {image : Image} (h : Image.openAt path pieceSize limit (.file file) = .ok image)
    (logger : Logger) :
    Ends path (assemblyFault? file) (perform assemble { image } logger).1.1 := by
  have hopened := Image.opened_of_openAt h
  have hreadable := Image.readable_of_openAt h (Int.natCast_nonneg pieceSize)
  rw [← hopened.path_eq]
  exact settles_assemble hopened.shows hreadable hopened.sections_eq logger

/-- The small binary with its variable stubs named like the function stubs, and without a symbol
table. -/
def doubledBinary : List UInt8 := (smallBinary.set 284 0).set 360 1

/-- The second section with function stubs is reported, not the missing symbol table. -/
theorem assemble_ends_doubledBinary : ∃ small doubled : Image,
    Image.openAt "small" (5 : ℕ) 0 (.file smallBinary) = .ok small ∧
      Image.openAt "doubled" (0 : ℕ) 0 (.file doubledBinary) = .ok doubled ∧
      Ends "small" none (perform assemble { image := small } quietLogger).1.1 ∧
      Ends "doubled" (some .duplicateStubSection)
        (perform assemble { image := doubled } quietLogger).1.1 := by
  have hsmall : refusal? smallBinary 0 = none := by decide +kernel
  have hdoubled : refusal? doubledBinary 0 = none := by decide +kernel
  have hpath : Source.checkPath "small" = .ok () := by decide
  have hpath' : Source.checkPath "doubled" = .ok () := by decide
  obtain ⟨small, hopen⟩ := Image.exists_openAt hpath (5 : ℕ) hsmall
  obtain ⟨doubled, hopen'⟩ := Image.exists_openAt hpath' (0 : ℕ) hdoubled
  have hnone : assemblyFault? smallBinary = none := by decide +kernel
  have hduplicate : assemblyFault? doubledBinary = some .duplicateStubSection := by decide +kernel
  have hassembled := assemble_ends hopen quietLogger
  have hassembled' := assemble_ends hopen' quietLogger
  rw [hnone] at hassembled
  rw [hduplicate] at hassembled'
  exact ⟨small, doubled, hopen, hopen', hassembled, hassembled'⟩

end Session
end ImportStubs
