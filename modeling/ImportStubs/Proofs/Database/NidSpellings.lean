import ImportStubs.Proofs.Database.Descriptor
import ImportStubs.Proofs.Database.Faults
import ImportStubs.Proofs.Number.LongNumeral
import ImportStubs.Proofs.Number.Spellings

/-!
# NIDs are numbers

Every integer of 32 bits is a NID, and so is each of its spellings. No other text of ASCII
characters is one, nor is any value of another kind. Two NIDs are the same for a descriptor exactly
if they denote the same number, whichever way they are spelled.
-/

namespace ImportStubs

namespace Nid

/-- The value denotes the number as a NID. -/
inductive Denotes : Value → ℕ → Prop
  | integer {n : ℕ} (hn : n ≤ 0xFFFFFFFF) : Denotes (.int n) n
  | spelling {t : Text} {n : ℕ} (hn : n ≤ 0xFFFFFFFF) (h : Numeral.Spells t n) :
      Denotes (.text t) n
  | zero {t : Text} (hlength : t.length ≤ 3000) (h : Numeral.SpellsZero t) : Denotes (.text t) 0

theorem Denotes.gives {v : Value} {n : ℕ} (h : Denotes v n) : Gives v n := by
  have hgives : n ≤ 0xFFFFFFFF → number? v = some n → Gives v n :=
    fun hn hnumber => ⟨hnumber, by omega, by omega⟩
  cases h with
  | integer hn => exact hgives hn rfl
  | spelling hn h =>
    have hsmall : n < 10 ^ Numeral.decimalLimit :=
      lt_of_lt_of_le (show n < 10 ^ 10 by omega) (Nat.pow_le_pow_right (by decide) (by decide))
    exact hgives hn (Numeral.parse?_of_spells h hsmall)
  | zero hlength h =>
    exact hgives (by decide) (Numeral.parse?_of_spellsZero h (hlength.trans (by decide)))

theorem Denotes.number_eq {v : Value} {n : ℕ} (h : Denotes v n) : number? v = some (n : Int) :=
  h.gives.number_eq

theorem denotes_of_gives {t : Text} (hascii : Numeral.IsAscii t) (hlength : t.length ≤ 3000)
    {z : Int} (h : Gives (.text t) z) : ∃ n : ℕ, z = n ∧ Denotes (.text t) n := by
  obtain ⟨n, rfl⟩ := Int.eq_ofNat_of_zero_le h.nonneg
  have hn := h.le_max
  refine ⟨n, rfl, ?_⟩
  rcases Numeral.spells_of_parse? hascii h.number_eq with hspells | ⟨rfl, hzero⟩
  · exact .spelling (by omega) hspells
  · exact .zero hlength hzero

/-- A short text spells no number that is too long to be shown. -/
theorem not_unshowable_of_isAscii {t : Text} (hascii : Numeral.IsAscii t)
    (hlength : t.length ≤ 3000) : ¬Unshowable (.text t) := by
  rintro (⟨z, hz, hlong⟩ | hlong)
  · have hlt : z.natAbs < 16 ^ t.length := Numeral.natAbs_lt_of_parse? hascii hz
    obtain ⟨k, hk, hlimit⟩ : ∃ k, t.length ≤ 5 * k ∧ 7 * k ≤ Numeral.decimalLimit :=
      ⟨600, hlength, by decide⟩
    have hpow : 16 ^ t.length ≤ 10 ^ Numeral.decimalLimit :=
      calc 16 ^ t.length
        _ ≤ 16 ^ (5 * k) := Nat.pow_le_pow_right (by decide) hk
        _ = (16 ^ 5) ^ k := Nat.pow_mul ..
        _ ≤ (10 ^ 7) ^ k := Nat.pow_le_pow_left (by decide) k
        _ = 10 ^ (7 * k) := (Nat.pow_mul ..).symm
        _ ≤ 10 ^ Numeral.decimalLimit := Nat.pow_le_pow_right (by decide) hlimit
    rw [Numeral.isShowable_eq_false_iff] at hlong
    omega
  · cases hlong

/-- A value that is not refused for its length is refused with an error of the database. -/
theorem exists_fault_of_read {what : Text} {v : Value} (hshow : ¬Unshowable v)
    (h : ∀ z, read what v ≠ .ok z) : ∃ e, read what v = .error e ∧ e.isDatabaseFault = true := by
  cases hread : read what v with
  | ok z => exact absurd hread (h z)
  | error e =>
    rcases Descriptor.expected_nid what v e hread with hfault | rfl
    · exact ⟨e, rfl, hfault⟩
    · exact absurd (read_eq_unshowable_iff.mp hread) hshow

end Nid

namespace Descriptor

open NidDatabase

/-- A table is taken exactly if the NIDs in it denote different numbers. If not, the error names two
entries that share a NID, in their order. -/
structure TellsApart {σ : Type} (Valid : Value → Prop) (given : Value → Value)
    (take : List (Text × Value) → Except DatabaseError σ)
    (shared : Text → Text → Int → DatabaseError) : Prop where
  accepts_iff : ∀ entries : List (Text × Value),
    (∀ e ∈ entries, Valid e.2 ∧ ∃ n, Nid.Denotes (given e.2) n) →
    ((∃ result, take entries = .ok result) ↔
      entries.Pairwise fun e f => ¬∃ n, Nid.Denotes (given e.2) n ∧ Nid.Denotes (given f.2) n)
  refuses : ∀ entries : List (Text × Value),
    (∀ e ∈ entries, Valid e.2 ∧ ∃ n, Nid.Denotes (given e.2) n) →
    ∀ fault, take entries = .error fault → ∃ e f n, [e, f].Sublist entries ∧
      Nid.Denotes (given e.2) n ∧ Nid.Denotes (given f.2) n ∧ fault = shared e.1 f.1 n

section Sharing

variable {σ α : Type} {of : List (Int × α) → σ}
  {step : σ → Text × Value → Except DatabaseError σ} {Valid : Value → Prop}
  {given : Value → Value} {nid : α → Int} {make : Text × Value → α}

/-- The NID that is used for an entry is the number that it denotes. -/
theorem Adds.nid_make (h : Adds of step Valid (fun v => Nid.number? (given v)) nid make)
    {e : Text × Value} (hvalid : Valid e.2) {n : ℕ} :
    Nid.Denotes (given e.2) n → nid (make e) = n := fun hn =>
  Option.some.inj ((h.nid_eq e hvalid).symm.trans hn.number_eq)

/-- All entries are taken exactly if no two of them denote one number. -/
theorem Adds.exists_result_iff
    (h : Adds of step Valid (fun v => Nid.number? (given v)) nid make)
    {entries : List (Text × Value)}
    (hentries : ∀ e ∈ entries, Valid e.2 ∧ ∃ n, Nid.Denotes (given e.2) n) :
    (∃ result, entries.foldlM step (of []) = .ok result) ↔
      entries.Pairwise fun e f => ¬∃ n, Nid.Denotes (given e.2) n ∧ Nid.Denotes (given f.2) n := by
  have hvalid : ∀ e ∈ entries, Valid e.2 := fun e he => (hentries e he).1
  have hdistinct : (entries.map fun e => nid (make e)).Nodup ↔ entries.Pairwise fun e f =>
      ¬∃ n, Nid.Denotes (given e.2) n ∧ Nid.Denotes (given f.2) n := by
    rw [List.Nodup, List.pairwise_map]
    refine List.Pairwise.iff_of_mem fun {e f} he hf => not_congr ?_
    obtain ⟨n, hn⟩ := (hentries e he).2
    obtain ⟨m, hm⟩ := (hentries f hf).2
    constructor
    · intro heq
      rw [h.nid_make (hvalid e he) hn, h.nid_make (hvalid f hf) hm, Int.natCast_inj] at heq
      exact ⟨n, hn, heq ▸ hm⟩
    · rintro ⟨k, hk, hk'⟩
      rw [h.nid_make (hvalid e he) hk, h.nid_make (hvalid f hf) hk']
  rw [← hdistinct]
  simp only [h.foldlM_eq_ok_iff]
  constructor
  · rintro ⟨_, -, hnodup, -, -⟩
    exact hnodup
  · intro hnodup
    exact ⟨_, hvalid, hnodup, fun _ _ => rfl, rfl⟩

/-- The first entry that is refused denotes the number of an entry before it. -/
theorem Adds.exists_shared (h : Adds of step Valid (fun v => Nid.number? (given v)) nid make)
    {name : α → Text} (hname : ∀ entry, name (make entry) = entry.1)
    {shared : Text → Text → Int → DatabaseError}
    (htaken : ∀ entries entry other, Valid entry.2 →
      entries.lookup (nid (make entry)) = some other →
      step (of entries) entry = .error (shared (name other) entry.1 (nid (make entry))))
    {entries : List (Text × Value)}
    (hentries : ∀ e ∈ entries, Valid e.2 ∧ ∃ n, Nid.Denotes (given e.2) n) {fault : DatabaseError}
    (hfault : entries.foldlM step (of []) = .error fault) :
    ∃ e f n, [e, f].Sublist entries ∧ Nid.Denotes (given e.2) n ∧ Nid.Denotes (given f.2) n ∧
      fault = shared e.1 f.1 n := by
  obtain ⟨before, f, after, acc, rfl, hbefore, hstep⟩ := foldlM_eq_error_iff.mp hfault
  obtain ⟨-, -, -, rfl⟩ := (h.foldlM_eq_ok_iff before [] acc).mp hbefore
  obtain ⟨hvalid, n, hn⟩ := hentries f (by simp)
  rw [List.nil_append] at hstep
  cases hlookup : (before.map fun e => (nid (make e), make e)).lookup (nid (make f)) with
  | none =>
    have hadded := (h.step_eq_ok_iff _ f _).mpr ⟨hvalid, hlookup, rfl⟩
    rw [hadded] at hstep
    cases hstep
  | some other =>
    obtain ⟨_, _, hsplit, -⟩ := List.lookup_eq_some_iff.mp hlookup
    have hmem := hsplit ▸ List.mem_append_right _ (List.mem_cons_self ..)
    obtain ⟨e, he, heq⟩ := List.mem_map.mp hmem
    obtain ⟨hnid, rfl⟩ := Prod.mk.inj heq
    obtain ⟨hvalid', m, hm⟩ := hentries e (List.mem_append_left _ he)
    rw [htaken _ f _ hvalid hlookup] at hstep
    rw [h.nid_make hvalid' hm, h.nid_make hvalid hn, Int.natCast_inj] at hnid
    refine ⟨e, f, n, ?_, hnid ▸ hm, hn, ?_⟩
    · have hlast : [f].Sublist (f :: after) := List.singleton_sublist.mpr (List.mem_cons_self ..)
      exact (List.singleton_sublist.mpr he).append hlast
    · rw [← Except.error.inj hstep, hname, h.nid_make hvalid hn]

theorem Adds.tellsApart (h : Adds of step Valid (fun v => Nid.number? (given v)) nid make)
    {name : α → Text} (hname : ∀ entry, name (make entry) = entry.1)
    {shared : Text → Text → Int → DatabaseError}
    (htaken : ∀ entries entry other, Valid entry.2 →
      entries.lookup (nid (make entry)) = some other →
      step (of entries) entry = .error (shared (name other) entry.1 (nid (make entry)))) :
    TellsApart Valid given (fun entries => entries.foldlM step (of [])) shared where
  accepts_iff _ hentries := h.exists_result_iff hentries
  refuses _ hentries _ hfault := h.exists_shared hname htaken hentries hfault

end Sharing

theorem addExport_of_taken {what : Text} {exports : List (Int × Export)} {entry : Text × Value}
    {other : Export} (hvalid : ValidNid entry.2)
    (htaken : exports.lookup (exportOf entry).nid = some other) :
    addExport what exports entry =
      .error (.sharedByExports what other.name entry.1 (exportOf entry).nid) := by
  obtain ⟨nid, hgives⟩ := hvalid
  have hnid : (exportOf entry).nid = nid := by
    rw [exportOf, hgives.number_eq]
    rfl
  rw [hnid] at htaken ⊢
  rw [addExport, Nid.read_eq_ok_iff.mpr hgives]
  dsimp only [bind, Except.bind]
  rw [htaken]

theorem addModule_of_taken {library : Text} {modules : List (Int × Module)} {entry : Text × Value}
    {other : Module} (hvalid : ValidModule entry.2)
    (htaken : modules.lookup (moduleOf entry).nid = some other) :
    addModule library modules entry =
      .error (.sharedByModules library other.name entry.1 (moduleOf entry).nid) := by
  rw [addModule, readModule_eq_ok_iff.mpr ⟨hvalid, rfl⟩]
  dsimp only [bind, Except.bind]
  rw [htaken]

theorem addLibrary_of_taken {libraries : List (Int × Library)} {entry : Text × Value}
    {other : Library} (hvalid : ValidLibrary entry.2)
    (htaken : libraries.lookup (libraryOf entry).nid = some other) :
    (do NidDatabase.add ⟨libraries⟩ (← readLibrary entry.1 entry.2)) =
      .error (.sharedByLibraries other.name entry.1 (libraryOf entry).nid) := by
  rw [readLibrary_eq_ok_iff.mpr ⟨hvalid, rfl⟩]
  dsimp only [bind, Except.bind]
  rw [add, findLibrary, htaken]
  rfl

end Descriptor

/-- A value that is neither an integer nor a text is refused, as a fault of the database if it can
be shown. -/
theorem Nid.refused_of_otherwise (what : Text) {v : Value} (hint : ∀ z, v ≠ .int z)
    (htext : ∀ t, v ≠ .text t) :
    ∃ e, Nid.read what v = .error e ∧ (v.isShowable → e.isDatabaseFault = true) := by
  have hnone : Nid.number? v = none := by
    cases v with
    | int z => exact absurd rfl (hint z)
    | text t => exact absurd rfl (htext t)
    | _ => rfl
  have hread : ∀ z, Nid.read what v ≠ .ok z := by
    intro z h
    have hnumber := (Nid.read_eq_ok_iff.mp h).number_eq
    rw [hnone] at hnumber
    cases hnumber
  cases hcase : Nid.read what v with
  | ok z => exact absurd hcase (hread z)
  | error e =>
    refine ⟨e, rfl, fun hshow => ?_⟩
    have hplain : ¬Nid.Unshowable v := by
      rintro (⟨z, hz, -⟩ | hlong)
      · rw [hnone] at hz
        cases hz
      · rw [hshow] at hlong
        cases hlong
    obtain ⟨e', he', hfault⟩ := Nid.exists_fault_of_read hplain hread
    rw [hcase] at he'
    cases he'
    exact hfault

/-- The NIDs of a descriptor are the numbers that its values denote. -/
structure NidsAreNumbers : Prop where
  denoted : ∀ what v n, Nid.Denotes v n → Nid.read what v = .ok n
  /-- Among the short ASCII texts there are no other NIDs. -/
  only_denoted : ∀ what t, Numeral.IsAscii t → t.length ≤ 3000 → ∀ z,
    Nid.read what (.text t) = .ok z → ∃ n : ℕ, z = n ∧ Nid.Denotes (.text t) n
  refused : ∀ what t, Numeral.IsAscii t → t.length ≤ 3000 → (∀ n, ¬Nid.Denotes (.text t) n) →
    ∃ e, Nid.read what (.text t) = .error e ∧ e.isDatabaseFault = true
  /-- A value that is neither an integer nor a text is no NID. -/
  otherwise : ∀ what v, (∀ z, v ≠ .int z) → (∀ t, v ≠ .text t) →
    ∃ e, Nid.read what v = .error e ∧ (v.isShowable → e.isDatabaseFault = true)
  exports : ∀ what, Descriptor.TellsApart Descriptor.ValidNid (fun v => v)
    (fun entries => NidDatabase.readExports what (.table entries)) (.sharedByExports what)
  modules : ∀ library, Descriptor.TellsApart Descriptor.ValidModule (Descriptor.field "nid" .null)
    (fun entries => Descriptor.readModules library (.table entries)) (.sharedByModules library)
  libraries : Descriptor.TellsApart Descriptor.ValidLibrary (Descriptor.field "nid" .null)
    (fun entries => NidDatabase.ofDescriptor (.table entries)) .sharedByLibraries

/-- A NID is an integer of 32 bits or a spelling of one, and NIDs are compared as numbers. -/
theorem nidsAreNumbers : NidsAreNumbers where
  denoted what v n h := Nid.read_eq_ok_iff.mpr h.gives
  only_denoted what t hascii hlength z h :=
    Nid.denotes_of_gives hascii hlength (Nid.read_eq_ok_iff.mp h)
  refused what t hascii hlength h := by
    refine Nid.exists_fault_of_read (Nid.not_unshowable_of_isAscii hascii hlength) ?_
    intro z hread
    obtain ⟨n, -, hn⟩ := Nid.denotes_of_gives hascii hlength (Nid.read_eq_ok_iff.mp hread)
    exact h n hn
  otherwise what _ hint htext := Nid.refused_of_otherwise what hint htext
  exports what := (Descriptor.adds_export what).tellsApart (fun _ => rfl)
    fun _ _ _ => Descriptor.addExport_of_taken
  modules library := (Descriptor.adds_module library).tellsApart (fun _ => rfl)
    fun _ _ _ => Descriptor.addModule_of_taken
  libraries := Descriptor.adds_library.tellsApart (fun _ => rfl)
    fun _ _ _ => Descriptor.addLibrary_of_taken

example : (Nid.read "number" (.text " +0X_0f\n")).toOption = some 15 := by decide

end ImportStubs
