import ImportStubs.Proofs.Console.Styles
import ImportStubs.Proofs.Database.Names
import ImportStubs.Proofs.Elf.Acceptance
import ImportStubs.Proofs.Session.Contents
import ImportStubs.Proofs.Session.Passes
import ImportStubs.Proofs.Text.Surrogates

/-!
# What a document tells of a session

The numbers of a loaded stub are words, the name of its symbol is decoded from bytes, and its
entities come from a database. So its summary, and the report of a pass, are regular: a document
gives them back.
-/

namespace ImportStubs

open Json (Regular)

theorem IsWord.regular {n : Int} (h : IsWord n) : Regular False (.int n) := .int h.isShowable

theorem Text.IsDecoded.regular {t : Text} (h : t.IsDecoded) : Regular False (.text t) := by
  obtain ⟨cs, rfl⟩ := h
  exact .text (Json.joinPairs_ofChars cs)

/-- A table whose names are given by literals. -/
theorem regular_fields {members : List (Text × Value)} (names : List String)
    (hnames : members.map Prod.fst = names.map Text.ofString) (hnodup : names.Nodup)
    (hvalues : ∀ m ∈ members, Regular False m.2) : Regular False (.table members) := by
  refine .table ?_ (fun m hm => ?_) hvalues
  · rw [hnames]
    exact hnodup.map Text.ofString_injective
  · have hname : m.1 ∈ names.map Text.ofString := hnames ▸ List.mem_map_of_mem hm
    obtain ⟨name, -, hm⟩ := List.mem_map.mp hname
    rw [← hm]
    exact Json.joinPairs_ofChars _

/-- A stub with words for numbers, and with names that hold no surrogate pair. -/
structure Stub.IsRegular (s : Stub) : Prop where
  address : IsWord s.address
  libraryNid : IsWord s.libraryNid
  moduleNid : IsWord s.moduleNid
  targetNid : IsWord s.targetNid
  symbol : ∀ symbol ∈ s.symbol, symbol.name.IsDecoded
  library : ∀ e ∈ s.library, e.Joined
  module : ∀ e ∈ s.module, e.Joined
  target : ∀ e ∈ s.target, e.Joined

theorem isDecoded_kindName (kind : StubKind) : kind.name.IsDecoded := by
  cases kind <;> exact Text.isDecoded_ofString _

/-- A name that may be absent. -/
theorem regular_name {value : Option Text → Value} {name : Option Text}
    (h : ∀ t ∈ name, Json.joinPairs t = t) (hnone : value none = .null)
    (hsome : ∀ t, value (some t) = .text t) : Regular False (value name) := by
  cases name with
  | none => exact hnone ▸ .null
  | some t => exact hsome t ▸ .text (h t rfl)

theorem Stub.IsRegular.summary {s : Stub} (h : s.IsRegular) : Regular False (.table s.summary) := by
  have hsymbol : ∀ t ∈ s.symbol.map (·.name), Json.joinPairs t = t := by
    intro t ht
    obtain ⟨symbol, hsymbol, rfl⟩ := Option.map_eq_some_iff.mp ht
    obtain ⟨cs, hcs⟩ := h.symbol symbol hsymbol
    rw [hcs, Json.joinPairs_ofChars]
  have hentity : ∀ {e : Option Entity}, (∀ x ∈ e, x.Joined) →
      ∀ t ∈ e.bind (·.name?), Json.joinPairs t = t := by
    intro e he t ht
    obtain ⟨x, hx, hname⟩ := Option.bind_eq_some_iff.mp ht
    exact (he x hx).name t hname
  refine regular_fields ["kind", "address", "library_nid", "module_nid", "target_nid", "symbol",
    "library", "module", "target"] rfl (by decide) ?_
  simp only [Stub.summary, List.forall_mem_cons]
  exact ⟨(isDecoded_kindName s.kind).regular, h.address.regular, h.libraryNid.regular,
    h.moduleNid.regular,
    h.targetNid.regular, regular_name hsymbol rfl fun _ => rfl,
    regular_name (hentity h.library) rfl fun _ => rfl,
    regular_name (hentity h.module) rfl fun _ => rfl,
    regular_name (hentity h.target) rfl fun _ => rfl, by simp⟩

/-- A look-up in a database keeps a stub regular. -/
theorem Stub.IsRegular.resolved {s : Stub} (h : s.IsRegular) {db : NidDatabase}
    (hdb : db.Joined) : (Resolution.resolved db.lookups s).IsRegular := by
  have hvisit := Resolution.visit_resolve db.lookups s
  generalize Resolution.asked db.lookups s = questions, Resolution.resolved db.lookups s = after,
    Resolution.missed db.lookups s = miss at hvisit
  have hnone : ∀ e ∈ (none : Option Entity), e.Joined := by simp
  cases hvisit with
  | noLibrary _ => exact { h with library := hnone, module := hnone, target := hnone }
  | noModule _ _ => exact { h with library := hnone, module := hnone, target := hnone }
  | noTarget _ _ _ => exact { h with library := hnone, module := hnone, target := hnone }
  | found hlibrary hmodule htarget =>
    have hl := hdb.findLibrary hlibrary
    have hm := NidDatabase.joined_findModule hl hmodule
    have ht := NidDatabase.joined_findTarget hm htarget
    exact { h with library := by simpa using hl, module := by simpa using hm,
                   target := by simpa using ht }

theorem isDecoded_hexWordUpper (n : Int) : (Text.hexWordUpper n).IsDecoded :=
  (Text.isDecoded_ofString "0x").append (Text.isDecoded_ofChars _)

theorem Stub.IsRegular.displayName {s : Stub} (h : s.IsRegular) : s.displayName.IsDecoded := by
  rw [Stub.displayName]
  cases hsymbol : s.symbol with
  | none => exact Text.isDecoded_ofString _
  | some symbol => exact h.symbol symbol hsymbol

/-- A miss with words for numbers, and with a name that is decoded from bytes. -/
structure Miss.IsRegular (m : Miss) : Prop where
  address : IsWord m.address
  nid : IsWord m.nid
  symbol : m.symbol.IsDecoded

theorem Stub.IsRegular.missed {s : Stub} (h : s.IsRegular) {db : ImportDatabase} {m : Miss}
    (hmiss : Resolution.missed db s = some m) : m.IsRegular := by
  have hvisit := Resolution.visit_resolve db s
  rw [hmiss] at hvisit
  generalize Resolution.asked db s = questions, Resolution.resolved db s = after at hvisit
  cases hvisit with
  | noLibrary _ => exact ⟨h.address, h.libraryNid, h.displayName⟩
  | noModule _ _ => exact ⟨h.address, h.moduleNid, h.displayName⟩
  | noTarget _ _ _ => exact ⟨h.address, h.targetNid, h.displayName⟩

theorem isDecoded_stageName (m : Miss) : m.stageName.IsDecoded := by
  unfold Miss.stageName
  split
  · exact Text.isDecoded_ofString _
  · exact Text.isDecoded_ofString _
  · exact isDecoded_kindName m.kind

theorem Miss.IsRegular.message {m : Miss} (h : m.IsRegular) : m.message.IsDecoded := by
  have hwhat :=
    ((((Text.isDecoded_ofString "Unable to find ").append (isDecoded_stageName m)).append
    (Text.isDecoded_ofString " with NID ")).append (isDecoded_hexWordUpper m.nid)).append
    (Text.isDecoded_ofString " for ")
  have hother := ((hwhat.append (isDecoded_kindName m.kind)).append
    (Text.isDecoded_ofString " symbol ")).append h.symbol
  unfold Miss.message
  dsimp only
  split
  · exact (hwhat.append (Text.isDecoded_ofString "symbol ")).append h.symbol
  · exact hother

theorem Miss.IsRegular.toFields {m : Miss} (h : m.IsRegular) :
    Regular False (.table m.toFields) := by
  refine regular_fields ["kind", "address", "stage", "nid", "symbol", "message"] rfl (by decide) ?_
  simp only [Miss.toFields, List.forall_mem_cons]
  exact ⟨(isDecoded_kindName m.kind).regular, h.address.regular, (isDecoded_stageName m).regular,
    h.nid.regular, h.symbol.regular, h.message.regular, by simp⟩

/-- The report of a pass over fewer than 2^32 stubs. -/
theorem regular_reportOn {stubs : List Stub} (hstubs : ∀ s ∈ stubs, s.IsRegular)
    (hlength : stubs.length < 0x100000000) (db : ImportDatabase) :
    Regular False (.table (Resolution.reportOn db stubs).toFields) := by
  have hresolved : (Resolution.reportOn db stubs).resolved ≤ stubs.length := by
    simpa [Resolution.reportOn, Resolution.continued] using List.countP_le_length
  have htotal : (Resolution.reportOn db stubs).total = stubs.length := by
    simp [Resolution.reportOn, Resolution.continued]
  refine regular_fields ["all_resolved", "total", "resolved", "unresolved"] rfl (by decide) ?_
  simp only [Report.toFields, List.forall_mem_cons]
  refine ⟨.bool _, (isWord_natCast (by omega)).regular, (isWord_natCast (by omega)).regular,
    .list fun v hv => ?_, by simp⟩
  obtain ⟨m, hm, rfl⟩ := List.mem_map.mp hv
  obtain ⟨s, hs, hmiss⟩ := List.mem_filterMap.mp hm
  exact ((hstubs s hs).missed hmiss).toFields

namespace Session

open ElfFile

variable {file : List UInt8} {s : Session}

theorem isDecoded_extendedSymbols {t : ℕ} :
    ∀ symbol ∈ extendedSymbols file t, symbol.name.IsDecoded := by
  intro symbol hsymbol
  obtain ⟨j, hj, rfl⟩ := List.mem_iff_getElem.mp hsymbol
  have hbound := hj
  rw [length_extendedSymbols] at hbound
  have hget := extendedSymbols_getElem? file hbound
  rw [List.getElem?_eq_getElem hj] at hget
  rw [Option.some.inj hget]
  change (symbolAt file t j).name.IsDecoded
  unfold symbolAt
  split_ifs
  · exact ⟨[], rfl⟩
  · exact Text.isDecoded_ofChars _

theorem isRegular_stubAt (kind : StubKind) (i j : ℕ) : (stubAt file kind i j).IsRegular where
  address := isWord_natCast (Nat.mod_lt _ (by decide))
  libraryNid := isWord_natCast (Word.at32_lt _ file)
  moduleNid := isWord_natCast (Word.at32_lt _ file)
  targetNid := isWord_natCast (Word.at32_lt _ file)
  symbol := by simp [stubAt]
  library := by simp [stubAt]
  module := by simp [stubAt]
  target := by simp [stubAt]

namespace Loaded

variable (h : Loaded file s)
include h

theorem isDecoded_symbols : ∀ symbol ∈ s.symbols, symbol.name.IsDecoded := by
  obtain ⟨t, -, hsymbols⟩ := h.symbols
  rw [hsymbols]
  exact isDecoded_extendedSymbols

/-- A stub stands in the file, and it may have gained a symbol. -/
theorem gains_of_mem {kind : StubKind} {stub : Stub} (hstub : stub ∈ s.stubs.get kind) :
    ∃ i j : ℕ, Correlation.Gains i kind.symbolKind s.symbols (stubAt file kind i j) stub := by
  obtain ⟨place, honly, hloaded⟩ := h.stubs kind
  generalize s.stubSections.get kind = index at hloaded
  generalize s.stubs.get kind = final at hloaded hstub
  cases hloaded with
  | absent => cases hstub
  | @present i count _ hfits hcorrelated =>
    obtain ⟨j, hj, rfl⟩ := List.mem_iff_getElem.mp hstub
    have hlength := congrArg (·.1.length) hcorrelated
    simp only [Correlation.length_correlate, ElfFile.stubs, List.length_map,
      List.length_range] at hlength
    obtain ⟨after, hafter, hgains⟩ :=
      Correlation.gains_correlate (stubs_getElem? file (hlength ▸ hj))
    rw [hcorrelated, List.getElem?_eq_getElem hj] at hafter
    rw [Option.some.inj hafter]
    exact ⟨i, j, hgains⟩

theorem isRegular_stubs (kind : StubKind) : ∀ stub ∈ s.stubs.get kind, stub.IsRegular := by
  intro stub hstub
  obtain ⟨i, j, hgains⟩ := h.gains_of_mem hstub
  have hplain : (stubAt file kind i j).IsRegular := isRegular_stubAt kind i j
  cases hgains with
  | same => exact hplain
  | attached _ hmem _ =>
    exact { hplain with symbol := by simpa using h.isDecoded_symbols _ hmem }

theorem length_stubs_lt (kind : StubKind) : (s.stubs.get kind).length < 0x10000000 := by
  by_cases hsome : ∃ i, HoldsStubs file kind i
  · obtain ⟨i, hi⟩ := hsome
    have hsize : size file i < 0x100000000 := Word.at32_lt _ file
    rw [h.length_stubs hi]
    omega
  · rw [(h.absent (not_exists.mp hsome)).2]
    decide

theorem isWord_stubSections (kind : StubKind) : IsWord (s.stubSections.get kind) := by
  by_cases hsome : ∃ i, HoldsStubs file kind i
  · obtain ⟨i, hi⟩ := hsome
    rw [(h.correlated hi).1]
    exact ElfFile.isWord_of_isSection file hi.isSection
  · rw [(h.absent (not_exists.mp hsome)).1]
    exact isWord_natCast (n := 0) (by decide)

theorem length_symbols_lt : s.symbols.length < 0x100000000 := by
  obtain ⟨t, -, hsymbols⟩ := h.symbols
  have hsize : size file t < 0x100000000 := Word.at32_lt _ file
  rw [hsymbols, length_extendedSymbols]
  exact Nat.lt_of_le_of_lt (Nat.div_le_self ..) hsize

end Loaded
end Session
end ImportStubs
