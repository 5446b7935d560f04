import ImportStubs.Database
import Mathlib.Data.List.Nodup

/-!
# Registration of libraries

Libraries are added to a database one after another. The first library under a NID is registered,
and any later one is refused, which leaves the database as it was; so whatever the calls are, the
database holds the libraries whose calls succeeded, in their order. A database that is built from
the libraries of another one is equal to it and independent of it.
-/

namespace ImportStubs.NidDatabase

/-- The answer to a call that adds a library, and the database after it. -/
def register (db : NidDatabase) (library : Library) : Option DatabaseError × NidDatabase :=
  match db.add library with
  | .ok after => (none, after)
  | .error e => (some e, db)

variable {db : NidDatabase} {library : Library}

theorem register_of_taken {other : Library} (h : db.findLibrary library.nid = some other) :
    db.register library =
      (some (.sharedByLibraries other.name library.name library.nid), db) := by
  simp only [register, add, h]

theorem register_of_free (h : db.findLibrary library.nid = none) :
    db.register library = (none, ⟨db.libraries ++ [(library.nid, library)]⟩) := by
  simp only [register, add, h]

/-- A call fails exactly if the NID is taken. -/
theorem register_fst_eq_none_iff :
    (db.register library).1 = none ↔ db.findLibrary library.nid = none := by
  cases h : db.findLibrary library.nid with
  | none => simp [register_of_free h]
  | some other => simp [register_of_taken h]

theorem register_snd_of_error {e : DatabaseError} (h : (db.register library).1 = some e) :
    e.isDatabaseFault = true ∧ (db.register library).2 = db := by
  cases hfind : db.findLibrary library.nid with
  | none =>
    rw [register_of_free hfind] at h
    cases h
  | some other =>
    rw [register_of_taken hfind] at h ⊢
    cases h
    exact ⟨rfl, rfl⟩

theorem findLibrary_register (nid : Int) : (db.register library).2.findLibrary nid =
    (db.findLibrary nid).or (if library.nid = nid then some library else none) := by
  cases hfind : db.findLibrary library.nid with
  | some other =>
    rw [register_of_taken hfind]
    by_cases hnid : library.nid = nid
    · subst hnid
      rw [hfind, Option.some_or]
    · rw [if_neg hnid, Option.or_none]
  | none =>
    rw [register_of_free hfind, findLibrary, List.lookup_append, List.lookup_cons, List.lookup_nil]
    by_cases hnid : library.nid = nid
    · simp [hnid, findLibrary]
    · simp [hnid, findLibrary, beq_false_of_ne (Ne.symm hnid)]

/-- The database after some calls. -/
def after (db : NidDatabase) (calls : List Library) : NidDatabase :=
  calls.foldl (fun db library => (db.register library).2) db

/-- The answers to some calls: the error of each call that fails. -/
def answers (db : NidDatabase) : List Library → List (Option DatabaseError)
  | [] => []
  | library :: calls => (db.register library).1 :: answers (db.register library).2 calls

/-- The libraries whose calls succeed. -/
def added (db : NidDatabase) (calls : List Library) : List Library :=
  (calls.zip (db.answers calls)).filterMap fun (library, answer) =>
    if answer.isNone then some library else none

/-- The libraries in the order of their addition. -/
def contents (db : NidDatabase) : List Library := db.libraries.map Prod.snd

theorem after_cons (db : NidDatabase) (library : Library) (calls : List Library) :
    db.after (library :: calls) = (db.register library).2.after calls := rfl

theorem after_append (db : NidDatabase) (calls more : List Library) :
    db.after (calls ++ more) = (db.after calls).after more := List.foldl_append

/-- What is found is what was there, and else the library of the first call with the NID. -/
theorem findLibrary_after (db : NidDatabase) (calls : List Library) (nid : Int) :
    (db.after calls).findLibrary nid =
      (db.findLibrary nid).or (calls.find? fun library => library.nid = nid) := by
  induction calls generalizing db with
  | nil => simp [after]
  | cons library calls ih =>
    rw [after_cons, ih, findLibrary_register, Option.or_assoc, List.find?_cons]
    by_cases hnid : library.nid = nid <;> simp [hnid]

theorem length_answers (db : NidDatabase) (calls : List Library) :
    (db.answers calls).length = calls.length := by
  induction calls generalizing db with
  | nil => rfl
  | cons library calls ih => simp [answers, ih]

/-- A call is answered from the database that the calls before it leave. -/
theorem answers_getElem? (db : NidDatabase) (calls : List Library) (i : ℕ) :
    (db.answers calls)[i]? =
      calls[i]?.map fun library => ((db.after (calls.take i)).register library).1 := by
  induction calls generalizing db i with
  | nil => rfl
  | cons library calls ih =>
    cases i with
    | zero => rfl
    | succ i =>
      rw [answers, List.getElem?_cons_succ, ih]
      rfl

theorem added_cons (db : NidDatabase) (library : Library) (calls : List Library) :
    db.added (library :: calls) = (if (db.register library).1.isNone then [library] else []) ++
      (db.register library).2.added calls := by
  simp only [added, answers, List.zip_cons_cons, List.filterMap_cons]
  split_ifs <;> rfl

theorem libraries_after (db : NidDatabase) (calls : List Library) :
    (db.after calls).libraries =
      db.libraries ++ (db.added calls).map fun library => (library.nid, library) := by
  induction calls generalizing db with
  | nil => simp [after, added]
  | cons library calls ih =>
    rw [after_cons, ih, added_cons]
    cases hfind : db.findLibrary library.nid with
    | some other => simp [register_of_taken hfind]
    | none => simp [register_of_free hfind]

/-- The NIDs under which libraries stand. -/
def keys (db : NidDatabase) : List Int := db.libraries.map Prod.fst

theorem findLibrary_eq_none_iff {nid : Int} : db.findLibrary nid = none ↔ nid ∉ db.keys := by
  simp only [findLibrary, keys, List.lookup_eq_none_iff, List.mem_map, not_exists, not_and]
  constructor
  · intro h entry hmem heq
    have := h entry hmem
    simp [heq] at this
  · intro h entry hmem
    simpa using Ne.symm (h entry hmem)

/-- Libraries with new NIDs are all added, in their order. -/
theorem foldlM_add (db : NidDatabase) (libraries : List Library)
    (h : (db.keys ++ libraries.map Library.nid).Nodup) : libraries.foldlM add db =
      .ok ⟨db.libraries ++ libraries.map fun library => (library.nid, library)⟩ := by
  induction libraries generalizing db with
  | nil => simp [pure, Except.pure]
  | cons library libraries ih =>
    rw [List.map_cons, List.append_cons] at h
    have hfree : db.findLibrary library.nid = none := by
      rw [findLibrary_eq_none_iff]
      have hfront := (List.nodup_append.mp h).1
      exact fun hmem => (List.nodup_append.mp hfront).2.2 _ hmem _ (List.mem_singleton_self _) rfl
    have hadd : db.add library = .ok ⟨db.libraries ++ [(library.nid, library)]⟩ := by
      simp only [add, hfree]
    rw [List.foldlM_cons, hadd]
    refine (ih ⟨db.libraries ++ [(library.nid, library)]⟩ ?_).trans ?_
    · simpa [keys] using h
    · simp

theorem nodup_keys_register (h : db.keys.Nodup) (library : Library) :
    (db.register library).2.keys.Nodup := by
  cases hfind : db.findLibrary library.nid with
  | some other => rwa [register_of_taken hfind]
  | none =>
    have hnew : library.nid ∉ db.keys := findLibrary_eq_none_iff.mp hfind
    have hkeys : (db.register library).2.keys = db.keys ++ [library.nid] := by
      rw [register_of_free hfind, keys, List.map_append]
      rfl
    rw [hkeys, ← List.concat_eq_append]
    exact List.Nodup.concat hnew h

theorem nodup_keys_after (h : db.keys.Nodup) (calls : List Library) :
    (db.after calls).keys.Nodup := by
  induction calls generalizing db with
  | nil => exact h
  | cons library calls ih => exact ih (nodup_keys_register h library)

theorem keys_after_empty (calls : List Library) :
    (empty.after calls).keys = (empty.added calls).map Library.nid := by
  rw [keys, libraries_after, List.map_append, List.map_map]
  rfl

theorem contents_after_empty (calls : List Library) :
    (empty.after calls).contents = empty.added calls := by
  rw [contents, libraries_after, List.map_append, List.map_map]
  exact List.map_id _

theorem nodup_added (calls : List Library) : ((empty.added calls).map Library.nid).Nodup := by
  have hempty : empty.keys.Nodup := List.nodup_nil
  rw [← keys_after_empty]
  exact nodup_keys_after hempty calls

/-- A database can be built again from its libraries. -/
theorem ofLibraries_contents (calls : List Library) :
    ofLibraries (empty.after calls).contents = .ok (empty.after calls) := by
  rw [ofLibraries, contents_after_empty, foldlM_add empty _ (nodup_added calls),
    ← libraries_after]

/-- What is done to one of several databases. -/
inductive Action where
  | add (index : ℕ) (library : Library)
  | rebuild (index : ℕ)
deriving DecidableEq, Repr

/-- Some databases after an action. What is built from the libraries of one of them is a further
database. -/
def act (databases : List NidDatabase) : Action → List NidDatabase
  | .add index library => databases.modify index fun db => (db.register library).2
  | .rebuild index =>
    match databases[index]?.map fun db => ofLibraries db.contents with
    | some (.ok db) => databases ++ [db]
    | _ => databases

theorem act_add_last (databases : List NidDatabase) (db : NidDatabase) (calls : List Library) :
    (calls.map (.add databases.length)).foldl act (databases ++ [db]) =
      databases ++ [db.after calls] := by
  induction calls generalizing db with
  | nil => rfl
  | cons library calls ih =>
    have hact : act (databases ++ [db]) (.add databases.length library) =
        databases ++ [(db.register library).2] := by
      simp only [act, List.modify_eq_set_getElem?, List.getElem?_concat_length]
      simp
    rw [List.map_cons, List.foldl_cons, hact, ih]
    rfl

/-- A call succeeds exactly if no earlier call has the NID. -/
theorem answers_eq_none_iff {calls : List Library} {i : ℕ} {library : Library}
    (h : calls[i]? = some library) : (empty.answers calls)[i]? = some none ↔
      ∀ other ∈ calls.take i, other.nid ≠ library.nid := by
  have hfind : (empty.after (calls.take i)).findLibrary library.nid =
      (calls.take i).find? fun other => other.nid = library.nid := findLibrary_after ..
  rw [answers_getElem?, h, Option.map_some, Option.some_inj, register_fst_eq_none_iff, hfind,
    List.find?_eq_none]
  simp

theorem answers_eq_some_iff {calls : List Library} {i : ℕ} {library : Library}
    (h : calls[i]? = some library) : (∃ e, (empty.answers calls)[i]? = some (some e)) ↔
      ∃ other ∈ calls.take i, other.nid = library.nid := by
  have hsucceeds := answers_eq_none_iff h
  rw [answers_getElem?, h, Option.map_some] at hsucceeds ⊢
  simp only [Option.some_inj] at hsucceeds ⊢
  rw [← Option.ne_none_iff_exists', Ne, hsucceeds]
  push Not
  rfl

/-- Of the calls with one NID there is a first. -/
theorem exists_first {calls : List Library} {nid : Int} (h : ∃ other ∈ calls, other.nid = nid) :
    ∃ j other, calls[j]? = some other ∧ other.nid = nid ∧
      ∀ earlier ∈ calls.take j, earlier.nid ≠ nid := by
  have hfind : (calls.find? fun other => other.nid = nid).isSome := by simpa using h
  obtain ⟨other, hother⟩ := Option.isSome_iff_exists.mp hfind
  obtain ⟨hnid, before, rest, hsplit, hbefore⟩ := List.find?_eq_some_iff_append.mp hother
  refine ⟨before.length, other, ?_, by simpa using hnid, ?_⟩
  · rw [hsplit, List.getElem?_append_right (Nat.le_refl _), Nat.sub_self]
    rfl
  · rw [hsplit, List.take_left]
    intro earlier hearlier
    simpa using hbefore earlier hearlier

/-- A call fails exactly if an earlier call with the same NID has succeeded. -/
theorem fails_iff {calls : List Library} {i : ℕ} {library : Library}
    (h : calls[i]? = some library) : (∃ e, (empty.answers calls)[i]? = some (some e)) ↔
      ∃ j < i, ∃ other : Library, calls[j]? = some other ∧
        (empty.answers calls)[j]? = some none ∧ other.nid = library.nid := by
  rw [answers_eq_some_iff h]
  constructor
  · intro hother
    obtain ⟨j, other, hj, hnid, hfirst⟩ := exists_first hother
    obtain ⟨hlt, hcall⟩ : j < i ∧ calls[j]? = some other := by
      rw [List.getElem?_take] at hj
      split at hj
      · exact ⟨‹_›, hj⟩
      · cases hj
    refine ⟨j, hlt, other, hcall, (answers_eq_none_iff hcall).mpr ?_, hnid⟩
    rw [hnid]
    rwa [List.take_take, Nat.min_eq_left (Nat.le_of_lt hlt)] at hfirst
  · rintro ⟨j, hlt, other, hother, -, hnid⟩
    refine ⟨other, List.mem_iff_getElem?.mpr ⟨j, ?_⟩, hnid⟩
    rw [List.getElem?_take_of_lt hlt, hother]

/-- What calls on an empty database come to. -/
structure Registers (calls : List Library) : Prop where
  answered : (empty.answers calls).length = calls.length
  /-- A call fails exactly if an earlier call with the same NID has succeeded. -/
  fails_iff : ∀ (i : ℕ) (library : Library), calls[i]? = some library →
    ((∃ e, (empty.answers calls)[i]? = some (some e)) ↔
      ∃ j < i, ∃ other : Library, calls[j]? = some other ∧
        (empty.answers calls)[j]? = some none ∧ other.nid = library.nid)
  fault : ∀ e, some e ∈ empty.answers calls → e.isDatabaseFault = true
  unchanged : ∀ i e, (empty.answers calls)[i]? = some (some e) →
    empty.after (calls.take (i + 1)) = empty.after (calls.take i)
  find_eq : ∀ nid, (empty.after calls).findLibrary nid =
    calls.find? fun library : Library => library.nid = nid
  contents_eq : (empty.after calls).contents = empty.added calls
  distinct : ((empty.after calls).contents.map Library.nid).Nodup
  size_eq : (empty.after calls).size = (empty.added calls).length
  key_eq : ∀ entry ∈ (empty.after calls).libraries, entry.1 = entry.2.nid
  rebuilt : ofLibraries (empty.after calls).contents = .ok (empty.after calls)
  /-- What is added to a rebuilt database leaves all others as they are. -/
  apart : ∀ databases i, databases[i]? = some (empty.after calls) → ∀ more : List Library,
    (more.map (.add databases.length)).foldl act (act databases (.rebuild i)) =
      databases ++ [(empty.after calls).after more]

/-- Whatever libraries are added, and whichever of them are refused. -/
theorem registers (calls : List Library) : Registers calls where
  answered := length_answers empty calls
  fails_iff _ _ hcall := fails_iff hcall
  fault e he := by
    obtain ⟨i, hi⟩ := List.mem_iff_getElem?.mp he
    rw [answers_getElem?] at hi
    obtain ⟨library, -, hanswer⟩ := Option.map_eq_some_iff.mp hi
    exact (register_snd_of_error hanswer).1
  unchanged i e hanswer := by
    rw [answers_getElem?] at hanswer
    obtain ⟨library, hcall, hregister⟩ := Option.map_eq_some_iff.mp hanswer
    rw [List.take_add_one, hcall, after_append]
    exact (register_snd_of_error hregister).2
  find_eq nid := findLibrary_after empty calls nid
  contents_eq := contents_after_empty calls
  distinct := by
    rw [contents_after_empty]
    exact nodup_added calls
  size_eq := by
    rw [size, libraries_after, List.length_append, List.length_map]
    exact Nat.zero_add _
  key_eq := by
    rw [libraries_after, List.forall_mem_append, List.forall_mem_map]
    exact ⟨fun _ h => absurd h List.not_mem_nil, fun _ _ => rfl⟩
  rebuilt := ofLibraries_contents calls
  apart databases i hdatabase more := by
    have hrebuild : act databases (.rebuild i) = databases ++ [empty.after calls] := by
      simp only [act, hdatabase, Option.map_some, ofLibraries_contents]
    rw [hrebuild, act_add_last]

end ImportStubs.NidDatabase
