import ImportStubs.Command
import ImportStubs.Proofs.Json.RoundTrip
import ImportStubs.Proofs.Session.Steady
import ImportStubs.Proofs.Session.Summaries

/-!
# The document of a session

What the JSON mode writes of a loaded session is regular, so it is one document in ASCII that gives
back the summaries of the stubs, and of a resolution the counts of its report.
-/

namespace ImportStubs

/-- A text whose surrogates are lower halves holds no pair. -/
theorem Json.joinPairs_of_lower {t : Text} (h : ∀ i, CodePoint.surrogate i ∈ t → 0x400 ≤ i.val) :
    joinPairs t = t := by
  induction t with
  | nil => rfl
  | cons c t ih =>
    have hrest := ih fun i hi => h i (List.mem_cons_of_mem c hi)
    cases c with
    | char c => rw [joinPairs_char, hrest]
    | surrogate i =>
      have hlower := h i (List.mem_cons_self ..)
      rw [joinPairs_surrogate fun _ _ _ hpair => Nat.not_lt.mpr hlower hpair.1, hrest]

theorem joinPairs_of_checkPath {path : Text} (h : Source.checkPath path = .ok ()) :
    Json.joinPairs path = path := by
  refine Json.joinPairs_of_lower fun i hi => ?_
  unfold Source.checkPath at h
  split_ifs at h with hencodable
  have hstray : Source.isStrayByte (.surrogate i) = true := by
    by_contra hother
    exact hencodable (List.any_eq_true.mpr ⟨_, hi, by simp [CodePoint.isSurrogate, hother]⟩)
  rw [Source.isStrayByte, Bool.and_eq_true, decide_eq_true_eq] at hstray
  have hlow : 0xDC80 ≤ 0xD800 + i.val := hstray.1
  omega

theorem Session.stubs_resolved (db : ImportDatabase) (s : Session) :
    (s.resolved db).stubs.functions ++ (s.resolved db).stubs.vars =
      (s.stubs.functions ++ s.stubs.vars).map (Resolution.resolved db) :=
  List.map_append.symm

namespace Command

open Json (Regular)

/-- Everything that a document tells of a session is regular. -/
structure Documented (t : Session) (report : Option Report) : Prop where
  path : Json.joinPairs t.path = t.path
  sections : ∀ kind, IsWord (t.stubSections.get kind)
  symbols : t.symbols.length < 0x100000000
  stubs : ∀ stub ∈ t.stubs.functions ++ t.stubs.vars, stub.IsRegular
  report : ∀ r ∈ report, Regular False (.table r.toFields)

theorem Documented.regular {t : Session} {report : Option Report} (h : Documented t report) :
    Regular False (document t report) := by
  have hpath : Regular False (.text t.path) := .text h.path
  have hsections := fun kind => (h.sections kind).regular
  have hsymbols := (isWord_natCast h.symbols).regular
  have hstubs : Regular False
      (.list ((t.stubs.functions ++ t.stubs.vars).map fun stub => .table stub.summary)) := by
    refine .list fun v hv => ?_
    obtain ⟨stub, hstub, rfl⟩ := List.mem_map.mp hv
    exact (h.stubs stub hstub).summary
  cases report with
  | none =>
    refine regular_fields ["path", "fstubs_section", "vstubs_section", "symbols", "stubs"] rfl
      (by decide) ?_
    simp only [Option.toList_none, List.map_nil, List.append_nil, List.forall_mem_cons]
    exact ⟨hpath, hsections .functionStub, hsections .variableStub, hsymbols, hstubs, by simp⟩
  | some r =>
    refine regular_fields ["path", "fstubs_section", "vstubs_section", "symbols", "stubs",
      "resolution"] rfl (by decide) ?_
    simp only [Option.toList_some, List.map_cons, List.map_nil, List.cons_append, List.nil_append,
      List.forall_mem_cons]
    exact ⟨hpath, hsections .functionStub, hsections .variableStub, hsymbols, hstubs,
      h.report r rfl, by simp⟩

def resolvedBy (db : Option NidDatabase) (s : Session) : Session :=
  db.elim s fun db => s.resolved db.lookups

def reportBy (db : Option NidDatabase) (s : Session) : Option Report :=
  db.map fun db => Resolution.reportOn db.lookups (s.stubs.functions ++ s.stubs.vars)

theorem documented_loaded {file : List UInt8} {s : Session} (h : Session.Loaded file s)
    (hpath : Json.joinPairs s.path = s.path) {db : Option NidDatabase}
    (hdb : ∀ d ∈ db, d.Joined) : Documented (resolvedBy db s) (reportBy db s) := by
  have hstubs : ∀ stub ∈ s.stubs.functions ++ s.stubs.vars, stub.IsRegular := by
    intro stub hstub
    rcases List.mem_append.mp hstub with hfunction | hvar
    · exact h.isRegular_stubs .functionStub stub hfunction
    · exact h.isRegular_stubs .variableStub stub hvar
  cases db with
  | none => exact ⟨hpath, h.isWord_stubSections, h.length_symbols_lt, hstubs, by simp [reportBy]⟩
  | some d =>
    have hlength : (s.stubs.functions ++ s.stubs.vars).length < 0x100000000 := by
      have hfunctions := h.length_stubs_lt .functionStub
      have hvars := h.length_stubs_lt .variableStub
      rw [List.length_append]
      simp only [PerKind.get] at hfunctions hvars
      omega
    refine ⟨hpath, h.isWord_stubSections, h.length_symbols_lt, fun stub hstub => ?_, ?_⟩
    · rw [resolvedBy, Option.elim_some, Session.stubs_resolved] at hstub
      obtain ⟨before, hbefore, rfl⟩ := List.mem_map.mp hstub
      exact (hstubs before hbefore).resolved (hdb d rfl)
    · rintro r ⟨⟩
      exact regular_reportOn hstubs hlength d.lookups

def member? (name : String) : Value → Option Value
  | .table members => Value.member? name members
  | _ => none

/-- A stub of a document whose target is not null. -/
def hasTarget (stub : Value) : Bool :=
  match member? "target" stub with
  | none | some .null => false
  | some _ => true

/-- What a document tells of a session, and of the database that its stubs were looked up in. -/
structure Tells (db : Option NidDatabase) (s : Session) (v : Value) : Prop where
  /-- The function stubs and then the variable stubs, as the database resolves them. -/
  stubs : member? "stubs" v = some (.list ((s.stubs.functions ++ s.stubs.vars).map fun stub =>
    .table (db.elim stub fun d => Resolution.resolved d.lookups stub).summary))
  resolution_isSome : (member? "resolution" v).isSome = db.isSome
  /-- The counts of the report are those of the stubs in the same document. -/
  counts : ∀ resolution items, member? "resolution" v = some resolution →
    member? "stubs" v = some (.list items) →
    member? "total" resolution = some (.int items.length) ∧
      member? "resolved" resolution = some (.int (items.countP hasTarget)) ∧
      member? "all_resolved" resolution =
        some (.bool (decide (items.countP hasTarget = items.length)))

theorem stubs_document (s : Session) (report : Option Report) :
    member? "stubs" (document s report) =
      some (.list ((s.stubs.functions ++ s.stubs.vars).map fun stub => .table stub.summary)) := by
  cases report <;> rfl

theorem resolution_document (s : Session) (report : Option Report) :
    member? "resolution" (document s report) = report.map fun r => .table r.toFields := by
  cases report <;> rfl

theorem hasTarget_table_summary (s : Stub) :
    hasTarget (.table s.summary) = (s.target.bind (·.name?)).isSome := by
  rcases s with ⟨kind, address, libraryNid, moduleNid, targetNid, symbol, library, module, target⟩
  cases target with
  | none => rfl
  | some e => cases e <;> rfl

/-- A stub has a target exactly if its look-up missed nothing. -/
theorem hasTarget_resolved (db : NidDatabase) (s : Stub) :
    hasTarget (.table (Resolution.resolved db.lookups s).summary) =
      (Resolution.missed db.lookups s).isNone := by
  have hvisit := Resolution.visit_resolve db.lookups s
  rw [hasTarget_table_summary]
  generalize Resolution.asked db.lookups s = questions, Resolution.resolved db.lookups s = after,
    Resolution.missed db.lookups s = miss at hvisit
  cases hvisit with
  | noLibrary _ => rfl
  | noModule _ _ => rfl
  | noTarget _ _ _ => rfl
  | found _ _ htarget =>
    obtain ⟨x, rfl⟩ := NidDatabase.exists_target htarget
    rfl

theorem isEmpty_filterMap_iff {α β : Type} {f : α → Option β} {xs : List α} :
    (xs.filterMap f).isEmpty = true ↔ xs.countP (fun x => (f x).isNone) = xs.length := by
  rw [List.countP_eq_length, List.isEmpty_iff, List.filterMap_eq_nil_iff]
  simp

/-- The report counts the stubs that have a target after the pass. -/
theorem reportOn_counts (db : NidDatabase) (stubs : List Stub) :
    let told := stubs.countP fun s =>
      hasTarget (.table (Resolution.resolved db.lookups s).summary)
    (Resolution.reportOn db.lookups stubs).total = stubs.length ∧
      (Resolution.reportOn db.lookups stubs).resolved = told ∧
      (Resolution.reportOn db.lookups stubs).allResolved = decide (told = stubs.length) := by
  simp only [hasTarget_resolved]
  refine ⟨Nat.zero_add _, Nat.zero_add _, ?_⟩
  rw [Bool.eq_iff_iff, decide_eq_true_eq]
  exact isEmpty_filterMap_iff

theorem tells_document (db : Option NidDatabase) (s : Session) :
    Tells db s (document (resolvedBy db s) (reportBy db s)) where
  stubs := by
    rw [stubs_document]
    cases db with
    | none => rfl
    | some d =>
      rw [resolvedBy, Option.elim_some, Session.stubs_resolved, List.map_map]
      rfl
  resolution_isSome := by
    rw [resolution_document]
    cases db <;> rfl
  counts := by
    intro resolution items hresolution hitems
    rw [resolution_document] at hresolution
    cases db with
    | none => cases hresolution
    | some d =>
      cases hresolution
      rw [stubs_document, resolvedBy, Option.elim_some, Session.stubs_resolved,
        List.map_map] at hitems
      cases hitems
      rw [List.countP_map, List.length_map]
      obtain ⟨htotal, hresolved, hall⟩ :=
        reportOn_counts d (s.stubs.functions ++ s.stubs.vars)
      exact ⟨congrArg (fun n : ℕ => some (Value.int n)) htotal,
        congrArg (fun n : ℕ => some (Value.int n)) hresolved,
        congrArg (fun b : Bool => some (Value.bool b)) hall⟩

end Command
end ImportStubs
