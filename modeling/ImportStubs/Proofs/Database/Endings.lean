import ImportStubs.Proofs.Database.Faults
import ImportStubs.Proofs.Json.Plain
import ImportStubs.Proofs.Number.LongNumeral

/-!
# How the reading of a descriptor ends

It ends with a database whose NIDs have 32 bits, or with an error that speaks of the database,
unless it comes to a number that is too long to be shown. The numbers of a document are not, but a
text may still spell one in another radix than ten.
-/

namespace ImportStubs

namespace Descriptor

open NidDatabase

/-- Every NID: those of the entities, and those under which they are found. -/
def nids (db : NidDatabase) : List Int :=
  db.libraries.flatMap fun l => l.1 :: l.2.nid :: l.2.modules.flatMap fun m =>
    m.1 :: m.2.nid :: (m.2.functions ++ m.2.vars).flatMap fun x => [x.1, x.2.nid]

def Fits (nid : Int) : Prop := 0 ≤ nid ∧ nid ≤ 0xFFFFFFFF

theorem fits_number {v : Value} (h : ValidNid v) : Fits ((Nid.number? v).getD 0) := by
  obtain ⟨nid, hgives⟩ := h
  rw [hgives.number_eq]
  exact ⟨hgives.nonneg, hgives.le_max⟩

theorem fits_exportsOf {v : Value} (hvalid : ValidExports v) :
    ∀ x ∈ exportsOf v, Fits x.1 ∧ Fits x.2.nid := by
  rw [exportsOf, tabulate, List.forall_mem_map]
  intro entry hmem
  have hfits : Fits (exportOf entry).nid := fits_number (hvalid.valid entry hmem)
  exact ⟨hfits, hfits⟩

theorem fits_nids {v : Value} (hvalid : Valid v) : ∀ nid ∈ nids (databaseOf v), Fits nid := by
  rw [nids, databaseOf, tabulate, List.flatMap_map, List.forall_mem_flatMap]
  intro library hmem
  have hlibrary := hvalid.valid library hmem
  have hnid : Fits (libraryOf library).nid := fits_number hlibrary.nid
  refine List.forall_mem_cons.mpr ⟨hnid, List.forall_mem_cons.mpr ⟨hnid, ?_⟩⟩
  rw [libraryOf, modulesOf, tabulate, List.flatMap_map, List.forall_mem_flatMap]
  intro module hmem
  have hmodule := hlibrary.modules.valid module hmem
  have hnid : Fits (moduleOf module).nid := fits_number hmodule.nid
  refine List.forall_mem_cons.mpr ⟨hnid, List.forall_mem_cons.mpr ⟨hnid, ?_⟩⟩
  rw [List.forall_mem_flatMap]
  intro x hx
  have hfits : Fits x.1 ∧ Fits x.2.nid := by
    rcases List.mem_append.mp hx with hfunction | hvar
    · exact fits_exportsOf hmodule.functions x hfunction
    · exact fits_exportsOf hmodule.vars x hvar
  simpa using hfits

theorem isShowable_entry {v : Value} (hv : v.isShowable) :
    ∀ e ∈ members v, e.2.isShowable := by
  cases v with
  | table entries =>
    rw [Value.isShowable] at hv
    exact Value.membersShowable_iff.mp hv
  | _ => simp [members]

theorem isShowable_field {v default : Value} {name : String} (hv : v.isShowable)
    (hdefault : default.isShowable) : (field name default v).isShowable := by
  rw [field, memberD, Value.member?]
  cases h : (members v).lookup (Text.ofString name) with
  | none => exact hdefault
  | some w =>
    obtain ⟨before, after, heq, -⟩ := List.lookup_eq_some_iff.mp h
    exact isShowable_entry hv (Text.ofString name, w) (by simp [heq])

section Restrict

variable {P Q : Value → Prop} (himp : ∀ w : Value, w.isShowable → P w → Q w)
include himp

theorem Within.imp {Valid : Value → Prop} {nid? : Value → Option Int} {v : Value}
    (hv : v.isShowable) (h : Within Valid nid? P v) : Within Valid nid? Q v := by
  obtain ⟨before, entry, after, rfl, hvalid, hentry⟩ := h
  have hshow : entry.2.isShowable := isShowable_entry hv entry (by simp [members])
  exact ⟨before, entry, after, rfl, hvalid, himp _ hshow hentry⟩

theorem ModuleReaches.imp {v : Value} (hv : v.isShowable) (h : ModuleReaches P v) :
    ModuleReaches Q v := by
  cases h with
  | own htable h => exact .own htable (himp _ (isShowable_field hv rfl) h)
  | inFunctions htable hnid h =>
    exact .inFunctions htable hnid (h.imp himp (isShowable_field hv rfl))
  | inVars htable hnid hfunctions h =>
    exact .inVars htable hnid hfunctions (h.imp himp (isShowable_field hv rfl))

theorem LibraryReaches.imp {v : Value} (hv : v.isShowable) (h : LibraryReaches P v) :
    LibraryReaches Q v := by
  cases h with
  | inModules htable h =>
    exact .inModules htable (h.imp (fun _ hw => ModuleReaches.imp himp hw)
      (isShowable_field hv rfl))
  | own htable hmodules h => exact .own htable hmodules (himp _ (isShowable_field hv rfl) h)

theorem Reaches.imp {v : Value} (hv : v.isShowable) (h : Reaches P v) : Reaches Q v :=
  Within.imp (fun _ hw => LibraryReaches.imp himp hw) hv h

end Restrict

/-- A text that spells a number of more digits than are shown. -/
def Overlong (w : Value) : Prop :=
  ∃ t n, w = .text t ∧ Numeral.parse? t = some n ∧ Numeral.isShowable n = false

theorem overlong_iff {w : Value} (hw : w.isShowable) : Overlong w ↔ Nid.Unshowable w := by
  constructor
  · rintro ⟨t, n, rfl, hn, hlong⟩
    exact .inl ⟨n, hn, hlong⟩
  · rintro (⟨n, hn, hlong⟩ | hunshowable)
    · cases w with
      | int m =>
        cases hn
        exact absurd hw (by simp [Value.isShowable, hlong])
      | text t => exact ⟨t, n, rfl, hn, hlong⟩
      | _ => cases hn
    · exact absurd hw (by simp [hunshowable])

/-- Either all NIDs of the database have 32 bits, or the error speaks of the database. -/
def EndsWell : Except DatabaseError NidDatabase → Prop
  | .ok db => ∀ nid ∈ nids db, Fits nid
  | .error e => e.isDatabaseFault = true

theorem endsWell_iff (v : Value) :
    EndsWell (ofDescriptor v) ↔ ¬Reaches Nid.Unshowable v := by
  rw [← ofDescriptor_eq_unshowable_iff]
  cases hread : ofDescriptor v with
  | ok db =>
    obtain ⟨hvalid, rfl⟩ := ofDescriptor_eq_ok_iff.mp hread
    exact iff_of_true (fits_nids hvalid) (by simp)
  | error e =>
    rcases expected_ofDescriptor v e hread with hfault | rfl
    · refine iff_of_true hfault ?_
      rintro ⟨⟩
      cases hfault
    · exact iff_of_false (by rintro ⟨⟩) (by simp)

/-- A descriptor from a document ends in some other error exactly if its reading comes to an
overlong text in the place of a NID. -/
theorem document_endsWell_iff {cs : List Char} {v : Value} (hdocument : Json.read cs = .ok v) :
    EndsWell (ofDescriptor v) ↔ ¬Reaches Overlong v := by
  have hv : v.isShowable := Json.isShowable_read hdocument
  rw [endsWell_iff, not_iff_not]
  constructor
  · exact Reaches.imp (fun w hw => (overlong_iff hw).mpr) hv
  · exact Reaches.imp (fun w hw => (overlong_iff hw).mp) hv

section Single

/-- One library, whose NID is given by a text. -/
def single (digits : List Char) : Value :=
  .table [("A", .table [("nid", .text (Text.ofChars digits))])]

def singleDocument (digits : List Char) : List Char :=
  '\x7b' :: '"' :: (['A'] ++ '"' :: ':' ::
    '\x7b' :: '"' :: (['n', 'i', 'd'] ++ '"' :: ':' ::
      '"' :: (digits ++ '"' :: ['\x7d', '\x7d'])))

theorem read_singleDocument {digits : List Char} (hplain : ∀ c ∈ digits, Json.IsPlain c) :
    Json.read (singleDocument digits) = .ok (single digits) := by
  have htext := Json.starts_plain hplain ['\x7d', '\x7d']
  have hlibrary : Json.Starts _ (.table [("nid", .text (Text.ofChars digits))]) ['\x7d'] :=
    Json.starts_single (by simp [Json.IsPlain]) rfl htext
  exact Json.read_of_starts rfl (Json.starts_single (by simp [Json.IsPlain]) rfl hlibrary)

theorem isPlain_hexPower (n : ℕ) : ∀ c ∈ Numeral.hexPower n, Json.IsPlain c := by
  intro c hc
  simp only [Numeral.hexPower, List.mem_cons, List.mem_replicate] at hc
  rcases hc with rfl | rfl | rfl | ⟨-, rfl⟩ <;> simp [Json.IsPlain]

theorem validTable_empty {Valid : Value → Prop} {nid? : Value → Option Int} :
    ValidTable Valid nid? (.table []) :=
  ⟨rfl, by simp [members], by simp [members]⟩

theorem endsWell_single {n : ℕ} (hn : 16 ^ n ≤ 0xFFFFFFFF) :
    EndsWell (ofDescriptor (single (Numeral.hexPower n))) := by
  have hnid : Nid.Gives (.text (Text.ofChars (Numeral.hexPower n))) (16 ^ n : ℕ) :=
    ⟨Numeral.parse?_hexPower n, Int.natCast_nonneg _, Int.ofNat_le.mpr hn⟩
  have hlibrary : ValidLibrary (.table [("nid", .text (Text.ofChars (Numeral.hexPower n)))]) :=
    ⟨rfl, ⟨_, hnid⟩, validTable_empty⟩
  have hvalid : Valid (single (Numeral.hexPower n)) :=
    ⟨rfl, List.forall_mem_singleton.mpr hlibrary, List.nodup_singleton _⟩
  rw [ofDescriptor_eq_ok_iff.mpr ⟨hvalid, rfl⟩]
  exact fits_nids hvalid

theorem not_endsWell_single {n : ℕ} (hn : Numeral.isShowable (16 ^ n : ℕ) = false) :
    ¬EndsWell (ofDescriptor (single (Numeral.hexPower n))) := by
  have hlong : Nid.Unshowable (.text (Text.ofChars (Numeral.hexPower n))) :=
    .inl ⟨_, Numeral.parse?_hexPower n, hn⟩
  rw [endsWell_iff, not_not]
  exact ⟨[], _, [], rfl, validTable_empty, .own rfl validTable_empty hlong⟩

end Single

theorem document_endsWell_hexPower :
    Json.read (singleDocument (Numeral.hexPower 7)) = .ok (single (Numeral.hexPower 7)) ∧
      EndsWell (ofDescriptor (single (Numeral.hexPower 7))) ∧
      ¬Reaches Overlong (single (Numeral.hexPower 7)) := by
  have hread := read_singleDocument (isPlain_hexPower 7)
  have hends : EndsWell (ofDescriptor (single (Numeral.hexPower 7))) :=
    endsWell_single (by decide)
  exact ⟨hread, hends, (document_endsWell_iff hread).mp hends⟩

/-- Of 3600 zeros after the mark of radix sixteen the error is not one of the database. -/
theorem document_longNid :
    Json.read (singleDocument (Numeral.hexPower 3600)) = .ok (single (Numeral.hexPower 3600)) ∧
      ¬EndsWell (ofDescriptor (single (Numeral.hexPower 3600))) :=
  ⟨read_singleDocument (isPlain_hexPower 3600), not_endsWell_single Numeral.isShowable_hexPower⟩

end Descriptor
end ImportStubs
