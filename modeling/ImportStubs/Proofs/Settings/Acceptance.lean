import ImportStubs.Proofs.Settings.Tables
import ImportStubs.Proofs.Text.Decoding
import Mathlib.Control.Monad.Basic

/-!
# Which settings are accepted

Settings are read from a document exactly if each of the two tables is absent or a table, each known
name in them has a value of the type of its default, and neither number is negative. Every setting
is then the value given for it, or its default. What else stands in the document has no influence,
and the error is the first of the faults in a fixed order of the tables.
-/

namespace ImportStubs.Settings

open Toml (Members DistinctMembers)

/-- The value that a document gives for a setting. -/
def given (members : Members) (table name : String) : Option Value :=
  valueIn? name (Value.member? table members)

/-- A table of settings is absent, or it is a table. -/
def HasTable (members : Members) (table : String) : Prop :=
  ∀ v, (Text.ofString table, v) ∈ members → ∃ entries, v = .table entries

/-- The given values have the types of the defaults. -/
def HasTypes (members : Members) (table : String) (defaults : List (String × Value)) : Prop :=
  ∀ d ∈ defaults, ∀ v, given members table d.1 = some v → typeOf? v = typeOf? d.2

/-- The settings of a document are well formed. -/
structure Acceptable (members : Members) : Prop where
  global_table : HasTable members "global"
  link_table : HasTable members "link"
  global_types : HasTypes members "global" globalDefaults
  link_types : HasTypes members "link" linkDefaults
  nonneg : ∀ name ∈ ["chunk_size", "max_file_size"], ∀ n : Int,
    given members "link" name = some (.int n) → 0 ≤ n

/-- A table of settings: the given values, and the defaults where none is given. -/
def filled (members : Members) (table : String) (defaults : List (String × Value)) :
    List (Text × Value) :=
  defaults.map fun d => (Text.ofString d.1, (given members table d.1).getD d.2)

/-- Every setting has the given value, or its default if none is given. -/
structure Gives (members : Members) (s : Settings) : Prop where
  global_eq : globalFields s.global = filled members "global" globalDefaults
  link_eq : linkFields s.link = filled members "link" linkDefaults

def rangeFault? (members : Members) (name : String) : Option SettingsError :=
  match given members "link" name with
  | some (.int n) => if n < 0 then some (.negative name n) else none
  | _ => none

/-- The faults of a document: those of the table for logging, those of the table for stubs, then the
numbers below zero. -/
def faults (members : Members) : List SettingsError :=
  tableFaults "global" globalDefaults (Value.member? "global" members) ++
    tableFaults "link" linkDefaults (Value.member? "link" members) ++
      ["chunk_size", "max_file_size"].filterMap (rangeFault? members)

section Document

variable {members members' : Members} {table name : String} {defaults : List (String × Value)}

theorem rangeFault?_eq {default n : Int} (hdefault : 0 ≤ default)
    (h : (given members "link" name).getD (.int default) = .int n) :
    rangeFault? members name = if n < 0 then some (.negative name n) else none := by
  unfold rangeFault?
  cases hgiven : given members "link" name with
  | none =>
    rw [hgiven] at h
    cases h
    exact (if_neg (Int.not_lt.mpr hdefault)).symm
  | some v =>
    rw [hgiven] at h
    obtain rfl : v = .int n := h
    rfl

/-- The two numbers are checked after the table is read. -/
theorem decides_validate {s : LinkSettings}
    (h : linkFields s = filled members "link" linkDefaults) :
    Decides (fun s' => linkFields s' = filled members "link" linkDefaults) (validate s)
      (["chunk_size", "max_file_size"].filterMap (rangeFault? members)) := by
  obtain ⟨hchunk, -, hsize⟩ : _ ∧ _ ∧ _ := by simpa [linkFields, filled, linkDefaults] using h
  simp only [List.filterMap_cons, List.filterMap_nil,
    rangeFault?_eq (by decide : (0 : Int) ≤ 0) hchunk.symm,
    rangeFault?_eq (by decide : (0 : Int) ≤ 0x10000000) hsize.symm]
  unfold validate
  by_cases hneg : s.chunkSize < 0
  · simp [hneg, Decides]
  · by_cases hneg' : s.maxFileSize < 0
    · simp [hneg, hneg', Decides]
    · simpa [hneg, hneg', Decides] using h

theorem decides_ofDocument (hdistinct : DistinctMembers members)
    (hshown : Value.membersShowable members) :
    Decides (Gives members) (ofDocument members) (faults members) := by
  have hvalues : ∀ table v, Value.member? table members = some v →
      Toml.Distinct v ∧ v.isShowable := by
    intro table v h
    have hmem := (lookup_eq_some_iff_mem hdistinct.nodup).mp h
    exact ⟨hdistinct.values _ hmem, Value.membersShowable_iff.mp hshown _ hmem⟩
  unfold ofDocument faults
  rw [List.append_assoc]
  apply (decides_readTable sets_global (fun v h => (hvalues _ v h).1)
    (fun v h => (hvalues _ v h).2) {}).bind
  intro global hglobal
  apply (decides_readTable sets_link (fun v h => (hvalues _ v h).1)
    (fun v h => (hvalues _ v h).2) {}).bind
  intro link hlink
  have hpair : ∀ link', linkFields link' = filled members "link" linkDefaults →
      Decides (Gives members) (pure ⟨global, link'⟩) [] := fun link' hlink' =>
    ⟨_, rfl, hglobal, hlink'⟩
  have hvalid := (decides_validate hlink).bind hpair
  rwa [List.append_nil] at hvalid

theorem given_eq_some_iff {v : Value} :
    given members table name = some v ↔ ∃ entries,
      Value.member? table members = some (.table entries) ∧
        Value.member? name entries = some v := by
  unfold given
  cases Value.member? table members with
  | none => simp [valueIn?]
  | some found => cases found <;> simp [valueIn?]

theorem hasTable_iff (h : DistinctMembers members) :
    HasTable members table ↔
      ∀ v, Value.member? table members = some v → ∃ entries, v = .table entries := by
  unfold HasTable Value.member?
  simp only [lookup_eq_some_iff_mem h.nodup]

/-- There is no fault in a table that is absent, or whose known names have the right types. -/
theorem tableFaults_eq_nil_iff (hdistinct : DistinctMembers members)
    (hnames : (defaults.map Prod.fst).Nodup) (htypes : ∀ d ∈ defaults, (typeOf? d.2).isSome) :
    tableFaults table defaults (Value.member? table members) = [] ↔
      HasTable members table ∧ HasTypes members table defaults := by
  rw [hasTable_iff hdistinct]
  unfold HasTypes
  simp only [given_eq_some_iff]
  cases hfound : Value.member? table members with
  | none => simp [tableFaults]
  | some found =>
    cases found with
    | table entries =>
      have hentries := Toml.distinct_table_iff.mp (hdistinct.of_lookup hfound)
      simp only [tableFaults, List.filterMap_eq_nil_iff, entryFault?_eq_none_iff hnames htypes]
      constructor
      · intro hall
        refine ⟨fun v hv => ⟨entries, (Option.some.inj hv).symm⟩, ?_⟩
        rintro d hd v ⟨entries', heq, hentry⟩
        cases heq
        exact hall _ ((lookup_eq_some_iff_mem hentries.nodup).mp hentry) d hd rfl
      · rintro ⟨-, hall⟩ ⟨entryName, v⟩ hentry d hd rfl
        exact hall d hd v ⟨entries, rfl, (lookup_eq_some_iff_mem hentries.nodup).mpr hentry⟩
    | _ => simp [tableFaults]

theorem rangeFault?_eq_none_iff :
    rangeFault? members name = none ↔
      ∀ n : Int, given members "link" name = some (.int n) → 0 ≤ n := by
  unfold rangeFault?
  cases given members "link" name with
  | none => simp
  | some v => cases v <;> simp

theorem faults_eq_nil_iff (hdistinct : DistinctMembers members) :
    faults members = [] ↔ Acceptable members := by
  unfold faults
  rw [List.append_eq_nil_iff, List.append_eq_nil_iff, List.filterMap_eq_nil_iff,
    tableFaults_eq_nil_iff hdistinct (by decide) (by decide),
    tableFaults_eq_nil_iff hdistinct (by decide) (by decide)]
  simp only [rangeFault?_eq_none_iff]
  constructor
  · rintro ⟨⟨⟨hglobal, hglobalTypes⟩, hlink, hlinkTypes⟩, hnonneg⟩
    exact ⟨hglobal, hlink, hglobalTypes, hlinkTypes, hnonneg⟩
  · intro h
    exact ⟨⟨⟨h.global_table, h.global_types⟩, h.link_table, h.link_types⟩, h.nonneg⟩

/-- The document has an entry in a table. -/
def HasEntry (members : Members) (table name : String) (v : Value) : Prop :=
  ∃ entries, (Text.ofString table, Value.table entries) ∈ members ∧
    (Text.ofString name, v) ∈ entries

def allDefaults : List (String × List (String × Value)) :=
  [("global", globalDefaults), ("link", linkDefaults)]

/-- Two documents agree about the known names, in whatever order they have them and whatever else
they have. -/
structure SameSettings (members members' : Members) : Prop where
  tables : ∀ t ∈ allDefaults, HasTable members t.1 ↔ HasTable members' t.1
  entries : ∀ t ∈ allDefaults, ∀ d ∈ t.2, ∀ v,
    HasEntry members t.1 d.1 v ↔ HasEntry members' t.1 d.1 v

theorem hasEntry_iff (h : DistinctMembers members) {v : Value} :
    HasEntry members table name v ↔ given members table name = some v := by
  rw [given_eq_some_iff]
  apply exists_congr
  intro entries
  unfold Value.member?
  rw [lookup_eq_some_iff_mem h.nodup]
  apply and_congr_right
  intro hmem
  rw [lookup_eq_some_iff_mem (Toml.distinct_table_iff.mp (h.values _ hmem)).nodup]

/-- A fault is one of the document, and not of its path. -/
theorem ne_missingFile_of_mem_faults {e : SettingsError} (h : e ∈ faults members) (path : Text) :
    e ≠ .missingFile path := by
  rintro rfl
  simp only [faults, List.mem_append] at h
  rcases h with (h | h) | h
  · exact missingFile_notMem_tableFaults h
  · exact missingFile_notMem_tableFaults h
  · obtain ⟨name, -, hfault⟩ := List.mem_filterMap.mp h
    unfold rangeFault? at hfault
    split at hfault
    · split_ifs at hfault
      cases hfault
    · cases hfault

theorem SameSettings.symm (h : SameSettings members members') : SameSettings members' members := by
  constructor
  · intro t ht
    exact (h.tables t ht).symm
  · intro t ht d hd v
    exact (h.entries t ht d hd v).symm

namespace SameSettings

variable (h : SameSettings members members') (hdistinct : DistinctMembers members)
  (hdistinct' : DistinctMembers members') {t : String × List (String × Value)}
  (ht : t ∈ allDefaults)
include h hdistinct hdistinct'

section

include ht

theorem given_eq {d : String × Value} (hd : d ∈ t.2) :
    given members t.1 d.1 = given members' t.1 d.1 := by
  apply Option.ext
  intro v
  rw [← hasEntry_iff hdistinct, ← hasEntry_iff hdistinct']
  exact h.entries t ht d hd v

theorem filled_eq : filled members t.1 t.2 = filled members' t.1 t.2 := by
  apply List.map_congr_left
  intro d hd
  rw [h.given_eq hdistinct hdistinct' ht hd]

theorem hasTypes (htypes : HasTypes members t.1 t.2) : HasTypes members' t.1 t.2 := by
  intro d hd v hv
  rw [← h.given_eq hdistinct hdistinct' ht hd] at hv
  exact htypes d hd v hv

end

theorem gives {s : Settings} (hgives : Gives members s) : Gives members' s := by
  constructor
  · rw [hgives.global_eq]
    exact h.filled_eq hdistinct hdistinct' (t := ("global", globalDefaults)) (by simp [allDefaults])
  · rw [hgives.link_eq]
    exact h.filled_eq hdistinct hdistinct' (t := ("link", linkDefaults)) (by simp [allDefaults])

theorem acceptable (hacceptable : Acceptable members) : Acceptable members' := by
  have hglobal : ("global", globalDefaults) ∈ allDefaults := by simp [allDefaults]
  have hlink : ("link", linkDefaults) ∈ allDefaults := by simp [allDefaults]
  constructor
  · exact (h.tables _ hglobal).mp hacceptable.global_table
  · exact (h.tables _ hlink).mp hacceptable.link_table
  · exact h.hasTypes hdistinct hdistinct' hglobal hacceptable.global_types
  · exact h.hasTypes hdistinct hdistinct' hlink hacceptable.link_types
  · intro name hname n hn
    obtain ⟨d, hd, rfl⟩ : ∃ d ∈ linkDefaults, d.1 = name := by
      simp only [List.mem_cons, List.not_mem_nil, or_false] at hname
      rcases hname with rfl | rfl <;> simp [linkDefaults]
    rw [← h.given_eq hdistinct hdistinct' hlink hd] at hn
    exact hacceptable.nonneg _ hname n hn

end SameSettings

/-- The fields determine the settings. -/
theorem Gives.unique {s s' : Settings} (h : Gives members s) (h' : Gives members s') : s = s' := by
  have hglobal := h.global_eq.trans h'.global_eq.symm
  have hlink := h.link_eq.trans h'.link_eq.symm
  obtain ⟨⟨_, _, _, _, _⟩, _, _, _⟩ := s
  obtain ⟨⟨_, _, _, _, _⟩, _, _, _⟩ := s'
  simp [globalFields, linkFields] at hglobal hlink ⊢
  exact ⟨hglobal, hlink⟩

theorem ofDocument_eq_ok_iff (hdistinct : DistinctMembers members)
    (hshown : Value.membersShowable members) {s : Settings} :
    ofDocument members = .ok s ↔ Acceptable members ∧ Gives members s := by
  have hdecides := decides_ofDocument hdistinct hshown
  rw [← faults_eq_nil_iff hdistinct, ← hdecides.exists_ok_iff]
  constructor
  · intro hs
    exact ⟨⟨s, hs⟩, hdecides.good_of_ok hs⟩
  · rintro ⟨⟨s', hs'⟩, hgives⟩
    rw [hs', hgives.unique (hdecides.good_of_ok hs')]

theorem ofBytes_eq {bytes : List UInt8} {cs : List Char} (hbytes : Utf8.decode? bytes = some cs)
    (hread : Toml.read cs = .ok members) : ofBytes bytes = ofDocument members := by
  unfold ofBytes
  rw [hbytes]
  dsimp only
  rw [hread]

end Document

/-- Settings are read from a document exactly if it is acceptable. They have the given values, and
defaults for what is not given, and neither other names nor the order of names matter. Otherwise the
error is the first fault: of the table for logging, of the table for stubs, of the two numbers. -/
theorem load_outcome {bytes : List UInt8} {cs : List Char} {members : Members}
    (hbytes : Utf8.decode? bytes = some cs) (hread : Toml.read cs = .ok members)
    (hshown : Value.membersShowable members) (path : Text) :
    loadDefault (.file bytes) = load path (.file bytes) ∧
      ((∃ s, load path (.file bytes) = .ok s) ↔ Acceptable members) ∧
      (∀ s, load path (.file bytes) = .ok s → Gives members s) ∧
      (∀ e, load path (.file bytes) = .error e →
        (faults members).head? = some e ∧ ∀ missing, e ≠ .missingFile missing) ∧
      ∀ path' bytes' cs' members', Utf8.decode? bytes' = some cs' → Toml.read cs' = .ok members' →
        Value.membersShowable members' → SameSettings members members' →
          ∀ s, load path (.file bytes) = .ok s ↔ load path' (.file bytes') = .ok s := by
  have hdistinct := Toml.distinctMembers_read hread
  have hdecides := decides_ofDocument hdistinct hshown
  have hload : ∀ path, load path (.file bytes) = ofDocument members := fun _ =>
    ofBytes_eq hbytes hread
  simp only [hload]
  refine ⟨ofBytes_eq hbytes hread, ?_, ?_, ?_, ?_⟩
  · rw [hdecides.exists_ok_iff, faults_eq_nil_iff hdistinct]
  · intro s hs
    exact hdecides.good_of_ok hs
  · intro e he
    have hfirst := hdecides.head?_of_error he
    exact ⟨hfirst, ne_missingFile_of_mem_faults (List.mem_of_mem_head? hfirst)⟩
  · intro path' bytes' cs' members' hbytes' hread' hshown' hsame s
    have hdistinct' := Toml.distinctMembers_read hread'
    have hload' : load path' (.file bytes') = ofDocument members' := ofBytes_eq hbytes' hread'
    rw [hload', ofDocument_eq_ok_iff hdistinct hshown, ofDocument_eq_ok_iff hdistinct' hshown']
    apply and_congr
    · exact ⟨hsame.acceptable hdistinct hdistinct', hsame.symm.acceptable hdistinct' hdistinct⟩
    · exact ⟨hsame.gives hdistinct hdistinct', hsame.symm.gives hdistinct' hdistinct⟩

def bareText : List Char := "[link]\nchunk_size=16".toList

/-- The same setting among names that mean nothing. -/
def clutteredText : List Char :=
  "debug=1\n[link]\nchunks=true\nchunk_size=16\n[other]\nlog_json=0".toList

theorem load_outcome_cluttered :
    (∃ s, load "config.toml" (.file (Utf8.encode bareText)) = .ok s) ∧
      ∀ s, load "config.toml" (.file (Utf8.encode bareText)) = .ok s ↔
        load "other.toml" (.file (Utf8.encode clutteredText)) = .ok s := by
  have hbare : Toml.read bareText = .ok [("link", .table [("chunk_size", .int 16)])] := by
    decide +kernel
  have hcluttered : Toml.read clutteredText = .ok [("debug", .int 1),
      ("link", .table [("chunks", .bool true), ("chunk_size", .int 16)]),
      ("other", .table [("log_json", .int 0)])] := by decide +kernel
  have hencoded : ∀ cs, Utf8.decode? (Utf8.encode cs) = some cs := fun cs =>
    Utf8.decode?_eq_some_iff.mpr rfl
  have hload := load_outcome (hencoded bareText) hbare (by decide +kernel) "config.toml"
  refine ⟨hload.2.1.mpr ?_, ?_⟩
  · rw [← faults_eq_nil_iff (Toml.distinctMembers_read hbare)]
    decide +kernel
  · refine hload.2.2.2.2 "other.toml" _ _ _ (hencoded clutteredText) hcluttered
      (by decide +kernel) ?_
    constructor
    all_goals
      intro t ht
      simp only [allDefaults, List.mem_cons, List.not_mem_nil, or_false] at ht
      rcases ht with rfl | rfl
    all_goals
      simp [HasTable, HasEntry, globalDefaults, linkDefaults, Text.ofString_injective.eq_iff]

def negativeText : List Char := "[link]\nmax_file_size=-1\nchunk_size=-2".toList

/-- The one that comes second in the document is refused. -/
theorem load_negative_chunk_size_first :
    Toml.read negativeText =
        .ok [("link", .table [("max_file_size", .int (-1)), ("chunk_size", .int (-2))])] ∧
      load "config.toml" (.file (Utf8.encode negativeText)) =
        .error (.negative "chunk_size" (-2)) := by
  constructor
  · decide +kernel
  · decide +kernel

end ImportStubs.Settings
