import ImportStubs.Proofs.Console.Styles
import ImportStubs.Proofs.Toml.Names
import ImportStubs.Settings

/-!
# One table of settings

A table is read entry by entry over the defaults. An entry with a known name and a value of the
type of its default sets its own field, one with an unknown name changes nothing, and any other is a
fault. So the table is refused for the first fault in it, and without one every field has the value
that the table gives for it, or its default.
-/

namespace ImportStubs.Settings

open Toml (Members)

/-- The settings for logging, with their defaults. -/
def globalDefaults : List (String × Value) :=
  [("log_level", .text "INFO"), ("log_file", .text ""), ("log_json", .bool false),
    ("debug", .bool false), ("version", .text "1.0.0")]

/-- The settings for the extraction of stubs, with their defaults. -/
def linkDefaults : List (String × Value) :=
  [("chunk_size", .int 0), ("import_db", .text ""), ("max_file_size", .int 0x10000000)]

/-- The type of a value, if settings can have it. -/
def typeOf? : Value → Option SettingType
  | .text _ => some .text
  | .int _ => some .int
  | .bool _ => some .bool
  | _ => none

/-- The value of a name in a table that may be absent. -/
def valueIn? (name : Text) : Option Value → Option Value
  | some (.table entries) => Value.member? name entries
  | _ => none

/-- A known name whose value has not the type of the default. -/
def entryFault? (table : String) (defaults : List (String × Value)) (entry : Text × Value) :
    Option SettingsError := do
  let d ← defaults.find? fun d => entry.1.is d.1
  let expected ← typeOf? d.2
  if typeOf? entry.2 = some expected then none
  else some (.wrongType table d.1 expected entry.2)

/-- The faults of a table in the order of its entries. -/
def tableFaults (table : String) (defaults : List (String × Value)) :
    Option Value → List SettingsError
  | none => []
  | some (.table entries) => entries.filterMap (entryFault? table defaults)
  | some _ => [.notTable table]

/-- The first fault is the error, and without a fault there is a good result. -/
def Decides {α : Type} (good : α → Prop) (x : Except SettingsError α) : List SettingsError → Prop
  | [] => ∃ a, x = .ok a ∧ good a
  | e :: _ => x = .error e

section Decides

variable {α β : Type} {good : α → Prop} {x : Except SettingsError α} {es : List SettingsError}

theorem Decides.imp {better : α → Prop} (h : Decides good x es) (himp : ∀ a, good a → better a) :
    Decides better x es := by
  cases es with
  | nil =>
    obtain ⟨a, ha, hgood⟩ := h
    exact ⟨a, ha, himp a hgood⟩
  | cons e es => exact h

theorem Decides.bind {good' : β → Prop} {f : α → Except SettingsError β}
    {es' : List SettingsError} (h : Decides good x es)
    (hf : ∀ a, good a → Decides good' (f a) es') : Decides good' (x >>= f) (es ++ es') := by
  cases es with
  | nil =>
    obtain ⟨a, rfl, hgood⟩ := h
    exact hf a hgood
  | cons e es =>
    obtain rfl : x = .error e := h
    rfl

theorem Decides.exists_ok_iff (h : Decides good x es) : (∃ a, x = .ok a) ↔ es = [] := by
  cases es with
  | nil =>
    obtain ⟨a, ha, -⟩ := h
    simp [ha]
  | cons e es =>
    obtain rfl : x = .error e := h
    simp

theorem Decides.good_of_ok (h : Decides good x es) {a : α} (ha : x = .ok a) : good a := by
  obtain rfl := h.exists_ok_iff.mp ⟨a, ha⟩
  obtain ⟨b, hb, hgood⟩ := h
  cases ha.symm.trans hb
  exact hgood

theorem Decides.head?_of_error (h : Decides good x es) {e : SettingsError} (he : x = .error e) :
    es.head? = some e := by
  cases es with
  | nil =>
    obtain ⟨a, ha, -⟩ := h
    cases he.symm.trans ha
  | cons e' es =>
    obtain rfl : x = .error e' := h
    cases he
    rfl

end Decides

section Table

variable {σ : Type} {table : String} {ms : List (Member σ)} {defaults : List (String × Value)}
  {fields : σ → List (Text × Value)}

/-- The type that a member takes. -/
def Member.type : Member σ → SettingType
  | .text _ _ => .text
  | .int _ _ => .int
  | .bool _ _ => .bool

/-- One entry of a table is read. -/
def applyEntry (table : String) (ms : List (Member σ)) (s : σ) (entry : Text × Value) :
    Except SettingsError σ :=
  match ms.find? fun m => entry.1.is m.name with
  | some m => m.apply table entry.2 s
  | none => .ok s

theorem readTable_table {entries : Members} {s : σ} :
    readTable table ms s (some (.table entries)) = entries.foldlM (applyEntry table ms) s :=
  rfl

theorem exists_apply {m : Member σ} {v : Value} (h : typeOf? v = some m.type) (s : σ) :
    ∃ s', m.apply table v s = .ok s' := by
  cases m <;> cases v <;> simp_all [typeOf?, Member.type, Member.apply]

theorem apply_of_ne {m : Member σ} {v : Value} (h : typeOf? v ≠ some m.type)
    (hshown : v.isShowable) (s : σ) :
    m.apply table v s = .error (.wrongType table m.name m.type v) := by
  cases m <;> cases v <;> simp_all [typeOf?, Member.type, Member.apply, Member.name, mismatch]

/-- A field with a new value, if it has this name. -/
def replaced (name : Text) (v : Value) (field : Text × Value) : Text × Value :=
  if field.1 = name then (name, v) else field

/-- The members are the settings with these defaults, and each sets its own field. -/
structure Sets (ms : List (Member σ)) (defaults : List (String × Value))
    (fields : σ → List (Text × Value)) : Prop where
  names : ∀ s, (fields s).map Prod.fst = defaults.map fun d => Text.ofString d.1
  aligned : List.Forall₂ (fun m d => m.name = d.1 ∧ typeOf? d.2 = some m.type) ms defaults
  sets : ∀ m ∈ ms, ∀ table v s s', m.apply table v s = .ok s' →
    fields s' = (fields s).map (replaced m.name v)

theorem sets_global : Sets globalMembers globalDefaults globalFields := by
  constructor
  · intro s
    rfl
  · simp [globalMembers, globalDefaults, Member.name, Member.type, typeOf?]
  · intro m hm table v s s' h
    simp only [globalMembers, List.mem_cons, List.not_mem_nil, or_false] at hm
    rcases hm with rfl | rfl | rfl | rfl | rfl <;> cases v <;> cases h <;>
      simp [globalFields, replaced, Member.name, Text.ofString_injective.eq_iff]

theorem sets_link : Sets linkMembers linkDefaults linkFields := by
  constructor
  · intro s
    rfl
  · simp [linkMembers, linkDefaults, Member.name, Member.type, typeOf?]
  · intro m hm table v s s' h
    simp only [linkMembers, List.mem_cons, List.not_mem_nil, or_false] at hm
    rcases hm with rfl | rfl | rfl <;> cases v <;> cases h <;>
      simp [linkFields, replaced, Member.name, Text.ofString_injective.eq_iff]

/-- Members and defaults are searched alike. -/
theorem rel_find? (h : Sets ms defaults fields) (name : Text) :
    Option.Rel (fun m d => m.name = d.1 ∧ typeOf? d.2 = some m.type)
      (ms.find? fun m => name.is m.name) (defaults.find? fun d => name.is d.1) := by
  have haligned := h.aligned
  clear h
  induction haligned with
  | nil => exact .none
  | @cons m d ms defaults hmd _ ih =>
    rw [List.find?_cons, List.find?_cons, hmd.1]
    cases name.is d.1 with
    | true => exact .some hmd
    | false => exact ih

theorem map_replaced_of_notMem {name : Text} {v : Value} {all : List (Text × Value)}
    (h : name ∉ all.map Prod.fst) : all.map (replaced name v) = all := by
  have hsame : ∀ field ∈ all, replaced name v field = field := by
    intro field hfield
    apply if_neg
    rintro rfl
    exact h (List.mem_map_of_mem hfield)
  rw [List.map_congr_left hsame, List.map_id']

/-- An entry is a fault, or it replaces the field of its name. -/
theorem decides_applyEntry (h : Sets ms defaults fields) {entry : Text × Value}
    (hshown : entry.2.isShowable) (s : σ) :
    Decides (fun s' => fields s' = (fields s).map (replaced entry.1 entry.2))
      (applyEntry table ms s entry) (entryFault? table defaults entry).toList := by
  have hrel := rel_find? h entry.1
  unfold applyEntry entryFault?
  cases hmember : ms.find? fun m => entry.1.is m.name with
  | none =>
    rw [hmember] at hrel
    generalize hdefault : (defaults.find? fun d => entry.1.is d.1) = found at hrel
    cases hrel
    refine ⟨s, rfl, (map_replaced_of_notMem ?_).symm⟩
    rw [h.names]
    intro hmem
    obtain ⟨d, hd, hname⟩ := List.mem_map.mp hmem
    have hother := List.find?_eq_none.mp hdefault d hd
    simp [Text.is, hname] at hother
  | some m =>
    rw [hmember] at hrel
    have hname : entry.1 = m.name := by simpa [Text.is] using List.find?_some hmember
    generalize (defaults.find? fun d => entry.1.is d.1) = found at hrel
    cases hrel with
    | @some _ d hmd =>
      dsimp only [Option.bind_eq_bind, Option.bind_some]
      rw [hmd.2, Option.bind_some, ← hmd.1]
      by_cases htype : typeOf? entry.2 = some m.type
      · obtain ⟨s', hs'⟩ : ∃ s', m.apply table entry.2 s = .ok s' := exists_apply htype s
        rw [if_pos htype, hs', hname]
        exact ⟨s', rfl, h.sets m (List.mem_of_find?_eq_some hmember) _ _ _ _ hs'⟩
      · rw [if_neg htype]
        exact apply_of_ne htype hshown s

/-- A field with the value that a table gives for it, or its own if none is given. -/
def overridden (v? : Option Value) (field : Text × Value) : Text × Value :=
  (field.1, (valueIn? field.1 v?).getD field.2)

theorem overridden_nil : overridden (some (.table [])) = id := by
  funext field
  simp [overridden, valueIn?, Value.member?]

theorem overridden_cons {name : Text} {v : Value} {entries : Members}
    (hname : name ∉ entries.map Prod.fst) (field : Text × Value) :
    overridden (some (.table entries)) (replaced name v field) =
      overridden (some (.table ((name, v) :: entries))) field := by
  by_cases hfield : field.1 = name
  · have habsent : entries.lookup name = none := lookup_eq_none_iff_notMem.mpr hname
    simp [overridden, replaced, valueIn?, Value.member?, hfield, habsent]
  · simp [overridden, replaced, valueIn?, Value.member?, hfield, List.lookup_cons,
      beq_false_of_ne hfield]

/-- Entries with distinct names override the fields, unless one of them is a fault. -/
theorem decides_entries (h : Sets ms defaults fields) {entries : Members}
    (hnames : (entries.map Prod.fst).Nodup) (hshown : ∀ entry ∈ entries, entry.2.isShowable)
    (s : σ) :
    Decides (fun s' => fields s' = (fields s).map (overridden (some (.table entries))))
      (entries.foldlM (applyEntry table ms) s)
      (entries.filterMap (entryFault? table defaults)) := by
  induction entries generalizing s with
  | nil =>
    refine ⟨s, rfl, ?_⟩
    rw [overridden_nil, List.map_id]
  | cons entry entries ih =>
    obtain ⟨hentry, hrest⟩ := List.forall_mem_cons.mp hshown
    obtain ⟨hname, hnames⟩ := List.nodup_cons.mp hnames
    have hall : Decides
        (fun s' => fields s' = (fields s).map (overridden (some (.table (entry :: entries)))))
        (applyEntry table ms s entry >>= fun s' => entries.foldlM (applyEntry table ms) s')
        ((entryFault? table defaults entry).toList ++
          entries.filterMap (entryFault? table defaults)) := by
      apply (decides_applyEntry h hentry s).bind
      intro s' hs'
      apply (ih hnames hrest s').imp
      intro s'' hs''
      rw [hs'', hs', List.map_map]
      exact List.map_congr_left fun field _ => overridden_cons hname field
    rw [List.foldlM_cons, List.filterMap_cons]
    cases hfault : entryFault? table defaults entry with
    | none => simpa [hfault] using hall
    | some e => simpa [hfault] using hall

/-- A table of settings is read over the defaults. -/
theorem decides_readTable (h : Sets ms defaults fields) {v? : Option Value}
    (hdistinct : ∀ v, v? = some v → Toml.Distinct v) (hshown : ∀ v, v? = some v → v.isShowable)
    (s : σ) :
    Decides (fun s' => fields s' = (fields s).map (overridden v?))
      (readTable table ms s v?) (tableFaults table defaults v?) := by
  cases v? with
  | none =>
    have hnothing : overridden none = id := rfl
    exact ⟨s, rfl, by rw [hnothing, List.map_id]⟩
  | some v =>
    cases v with
    | table entries =>
      have hentries := Toml.distinct_table_iff.mp (hdistinct _ rfl)
      rw [readTable_table]
      exact decides_entries h hentries.nodup (Value.membersShowable_iff.mp (hshown _ rfl)) s
    | _ => rfl

theorem entryFault?_eq_none_iff (hnames : (defaults.map Prod.fst).Nodup)
    (htypes : ∀ d ∈ defaults, (typeOf? d.2).isSome) {entry : Text × Value} :
    entryFault? table defaults entry = none ↔
      ∀ d ∈ defaults, entry.1 = Text.ofString d.1 → typeOf? entry.2 = typeOf? d.2 := by
  unfold entryFault?
  cases hfind : defaults.find? fun d => entry.1.is d.1 with
  | none =>
    have hunknown : ∀ d ∈ defaults, entry.1 ≠ Text.ofString d.1 := by
      intro d hd hname
      have hother := List.find?_eq_none.mp hfind d hd
      simp [Text.is, hname] at hother
    simp only [Option.bind_eq_bind, Option.bind_none, true_iff]
    intro d hd hname
    exact absurd hname (hunknown d hd)
  | some d =>
    have hd := List.mem_of_find?_eq_some hfind
    have hname : entry.1 = Text.ofString d.1 := by simpa [Text.is] using List.find?_some hfind
    obtain ⟨expected, hexpected⟩ := Option.isSome_iff_exists.mp (htypes d hd)
    simp only [Option.bind_eq_bind, Option.bind_some, hexpected, ite_eq_left_iff, reduceCtorEq,
      imp_false, not_not]
    constructor
    · intro htype d' hd' hname'
      have hsame := Text.ofString_injective (hname.symm.trans hname')
      rw [← List.inj_on_of_nodup_map hnames hd hd' hsame, htype, hexpected]
    · intro hall
      rw [hall d hd hname, hexpected]

theorem missingFile_notMem_tableFaults {path : Text} {v? : Option Value} :
    SettingsError.missingFile path ∉ tableFaults table defaults v? := by
  intro hmem
  unfold tableFaults at hmem
  split at hmem
  · cases hmem
  next entries =>
    obtain ⟨entry, -, hfault⟩ := List.mem_filterMap.mp hmem
    obtain ⟨d, -, hfault⟩ := Option.bind_eq_some_iff.mp hfault
    obtain ⟨expected, -, hfault⟩ := Option.bind_eq_some_iff.mp hfault
    split_ifs at hfault
    cases hfault
  · cases List.mem_singleton.mp hmem

end Table

end ImportStubs.Settings
