import ImportStubs.Command
import ImportStubs.Proofs.Console.Printing
import Mathlib.Data.List.Forall2
import Mathlib.Tactic.IntervalCases

/-!
# Names in markup

What is printed of a session or a report is markup with names from the binary and the database in
it, and an error line contains whatever the error tells. The tags of each piece of markup are fixed
by what is shown besides the names. So names cannot open or close a tag, and they cannot make the
markup fail.
-/

namespace ImportStubs

namespace Console.Markup

theorem unmarked_ofNat (n : ℕ) : Unmarked (Text.ofNat n) := by
  refine List.forall_mem_map.mpr fun c hc => ?_
  have hdigit := Nat.isDigit_of_mem_toDigits (by decide) (by decide) hc
  constructor <;> rintro ⟨⟩ <;> revert hdigit <;> decide

theorem unmarked_ofInt (n : ℤ) : Unmarked (Text.ofInt n) := by
  cases n with
  | ofNat n => exact unmarked_ofNat n
  | negSucc n => exact List.forall_mem_cons.mpr ⟨by decide, unmarked_ofNat (n + 1)⟩

theorem unmarked_digit {letters : LetterCase} {n : ℕ} (h : n < 16) :
    CodePoint.char (Radix.digit letters n) ≠ backslash ∧
      CodePoint.char (Radix.digit letters n) ≠ openBracket := by
  cases letters <;> interval_cases n <;> decide

theorem unmarked_digits (letters : LetterCase) (n : ℕ) :
    Unmarked (Text.ofChars (Radix.digits 16 letters n)) := by
  induction n using Nat.strong_induction_on with
  | h n ih =>
    rw [Radix.digits]
    split_ifs with hlarge
    · rw [Text.ofChars, List.map_append]
      refine (ih (n / 16) (Nat.div_lt_self (by omega) (by decide))).append ?_
      exact List.forall_mem_singleton.mpr (unmarked_digit (Nat.mod_lt n (by decide)))
    · exact List.forall_mem_singleton.mpr (unmarked_digit (by omega))

theorem unmarked_hexWordUpper (n : ℤ) : Unmarked (Text.hexWordUpper n) := by
  have hsign : Unmarked (Text.ofChars (if n < 0 then ['-'] else [])) := by
    split_ifs <;> unfold Unmarked <;> decide
  have hzeros : ∀ k, Unmarked (Text.ofChars (List.replicate k '0')) := by
    intro k c hc
    obtain ⟨d, hd, rfl⟩ := List.mem_map.mp hc
    rw [List.eq_of_mem_replicate hd]
    decide
  have hprefix : Unmarked ("0x" : Text) := by unfold Unmarked; decide
  rw [Text.hexWordUpper, Text.padded]
  refine hprefix.append ?_
  rw [Text.ofChars, List.map_append, List.map_append]
  exact (hsign.append (hzeros _)).append (unmarked_digits _ _)

end Console.Markup

namespace Display

open Console (IsShown Printable)
open Console.Markup

/-- The pieces of markup in a part. -/
def Part.markup : Part → List Text
  | panel p => [p.title, p.body]
  | table t _ => t.markup
  | line markup => [markup]

/-- The styles of the columns of a part. -/
def Part.styles : Part → List Text
  | table _ styles => styles
  | _ => []

def sessionMarkup (s : Session) : List Text := (sessionParts s).flatMap Part.markup

def reportMarkup (r : Report) : List Text := (reportParts r).flatMap Part.markup

/-- The tags around a dash. -/
def dashTags : List Tag := tags "[dim]-[/dim]"

def entityTags (e : Option Entity) : List Tag := if e.isSome then [] else dashTags

theorem tags_entityMarkup (e : Option Entity) : tags (entityMarkup e) = entityTags e := by
  cases e with
  | none => rfl
  | some e => exact tags_escape e.label

def rowTags (s : Stub) : List (List Tag) :=
  [[], [], [], [], [], entityTags s.library, entityTags s.module, entityTags s.target]

theorem map_tags_stubRow (s : Stub) : (stubRow s).map tags = rowTags s := by
  simp only [stubRow, List.map_cons, List.map_nil, (unmarked_hexWordUpper _).tags_eq_nil,
    tags_escape, tags_entityMarkup, rowTags]

theorem unmarked_sectionText (index : ℤ) : Unmarked (sectionText index) := by
  rw [sectionText]
  split_ifs
  · unfold Unmarked
    decide
  · exact unmarked_ofInt index

theorem unmarked_name (kind : StubKind) : Unmarked kind.name := by
  cases kind <;> unfold Unmarked <;> decide

theorem unmarked_stageName (m : Miss) : Unmarked m.stageName := by
  rw [Miss.stageName]
  split
  · unfold Unmarked
    decide
  · unfold Unmarked
    decide
  · exact unmarked_name m.kind

/-- A complete label with its tags, and text without marks after it. -/
theorem tags_labelled {label t : Text} (hlabel : isComplete label = true) (ht : Unmarked t)
    (next : Text) : tags (label ++ t ++ next) = tags label ++ tags next := by
  rw [List.append_assoc, tags_append_of_isComplete hlabel, ht.tags_append]

def functionLabel : String := "[bold]Function stubs:[/bold]  "

def variableLabel : String := "[bold]Variable stubs:[/bold]  "

def pathLabel : Text := "[bold]File:[/bold]            "

def symbolsLabel : Text := "[bold]Symbols:[/bold]         "

theorem tags_summaryLine {label : String} (hlabel : isComplete label = true) (kind : StubKind)
    (s : Session) (next : Text) :
    tags (summaryLine label kind s ++ next) = tags label ++ tags next := by
  have hopening : Unmarked (" (section " : Text) := by unfold Unmarked; decide
  have hclosing : Unmarked (")" : Text) := by unfold Unmarked; decide
  have hcounts := (((unmarked_ofNat (s.stubs.get kind).length).append hopening).append
    (unmarked_sectionText (s.stubSections.get kind))).append hclosing
  rw [← tags_labelled hlabel hcounts next, summaryLine]
  simp only [List.append_assoc]

/-- The lines of a summary after the first one, each with the line feed in front of it. -/
def summaryRest (s : Session) : Text :=
  "\n" ++ (summaryLine functionLabel .functionStub s ++ ("\n" ++
    (summaryLine variableLabel .variableStub s ++ ("\n" ++
      (symbolsLabel ++ Text.ofNat s.symbols.length)))))

theorem body_summary (s : Session) :
    (summary s).body = pathLabel ++ (escape s.path ++ summaryRest s) := by
  simp only [summary, Text.join, summaryRest, List.append_assoc]
  rfl

/-- The line after the path starts with a tag of its own. -/
theorem endsNothing_summaryRest (s : Session) : EndsNothing (summaryRest s) := ⟨rfl, rfl⟩

/-- The tags of the four labels in a summary. -/
def summaryTags : List Tag :=
  tags pathLabel ++ (tags functionLabel ++ (tags variableLabel ++ tags symbolsLabel))

theorem tags_summaryRest (s : Session) :
    tags (summaryRest s) = tags functionLabel ++ (tags variableLabel ++ tags symbolsLabel) := by
  have hfeed : Unmarked ("\n" : Text) := by unfold Unmarked; decide
  have hfunctions : isComplete functionLabel = true := rfl
  have hvars : isComplete variableLabel = true := rfl
  have hsymbols : isComplete symbolsLabel = true := rfl
  rw [summaryRest, hfeed.tags_append, tags_summaryLine hfunctions, hfeed.tags_append,
    tags_summaryLine hvars, hfeed.tags_append, tags_append_of_isComplete hsymbols,
    (unmarked_ofNat _).tags_eq_nil, List.append_nil]

theorem tags_body (s : Session) : tags (summary s).body = summaryTags := by
  have hpath : isComplete pathLabel = true := rfl
  rw [body_summary, tags_append_of_isComplete hpath,
    tags_escape_append _ (endsNothing_summaryRest s), tags_summaryRest, summaryTags]

theorem tags_line (status : Console.Status) (message : Text) :
    tags (status.line message) = tags (status.line []) ++ tags message := by
  have hcomplete : isComplete (status.line []) = true := by cases status <;> rfl
  rw [← tags_append_of_isComplete hcomplete, Console.Status.line, Console.Status.line,
    List.append_nil]

theorem tags_errorLine (message : Text) :
    tags (errorLine message) = tags (Console.Status.error.line []) := by
  rw [errorLine, tags_line, tags_escape, List.append_nil]

theorem unmarked_sectionName (kind : StubKind) : Unmarked kind.sectionName := by
  cases kind <;> unfold Unmarked <;> decide

theorem map_tags_unmarked {texts : List Text} (h : ∀ t ∈ texts, Unmarked t) :
    texts.map tags = List.replicate texts.length [] := by
  rw [← List.map_const']
  exact List.map_congr_left fun t ht => (h t ht).tags_eq_nil

/-- The title and the header of a table of stubs. -/
theorem map_tags_stubTable (kind : StubKind) (stubs : List Stub) :
    (stubTable kind stubs).markup.map tags = List.replicate 9 [] ++ stubs.flatMap rowTags := by
  have htitle : Unmarked (kind.sectionName ++ " (" ++ Text.ofNat stubs.length ++ ")") := by
    have hopening : Unmarked (" (" : Text) := by unfold Unmarked; decide
    have hclosing : Unmarked (")" : Text) := by unfold Unmarked; decide
    exact (((unmarked_sectionName kind).append hopening).append (unmarked_ofNat _)).append hclosing
  have hcolumns : ∀ column ∈ (stubTable kind stubs).columns, Unmarked column := by
    change ∀ column ∈ (stubTable kind []).columns, ∀ c ∈ column, c ≠ backslash ∧ c ≠ openBracket
    cases kind <;> decide
  have hrows : (stubTable kind stubs).rows.flatten.map tags = stubs.flatMap rowTags := by
    rw [stubTable, List.map_flatten, List.map_map, List.flatMap]
    exact congrArg List.flatten (List.map_congr_left fun s _ => map_tags_stubRow s)
  rw [Console.Table.markup, List.map_append, List.map_append, hrows, map_tags_unmarked hcolumns]
  change tags _ :: _ = _
  rw [htitle.tags_eq_nil]
  rfl

def titleTags : List Tag := tags "[bold bright_cyan]Vita Import Stubs[/bold bright_cyan]"

/-- The tags of all markup of a session. -/
def sessionTags (s : Session) : List (List Tag) :=
  [titleTags, summaryTags] ++
    (StubKind.all.filter fun kind => s.stubSections.get kind ≠ 0).flatMap fun kind =>
      List.replicate 9 [] ++ (s.stubs.get kind).flatMap rowTags

theorem map_tags_sessionMarkup (s : Session) : (sessionMarkup s).map tags = sessionTags s := by
  rw [sessionMarkup, sessionParts, List.flatMap_cons, List.flatMap_map, List.map_append,
    List.map_flatMap, sessionTags]
  simp only [Part.markup, map_tags_stubTable]
  rw [List.map_cons, List.map_cons, List.map_nil, tags_body]
  rfl

theorem map_tags_missRow (m : Miss) : (missRow m).map tags = List.replicate 5 [] := by
  simp only [missRow, List.map_cons, List.map_nil, (unmarked_hexWordUpper _).tags_eq_nil,
    tags_escape, (unmarked_name _).tags_eq_nil, (unmarked_stageName m).tags_eq_nil]
  rfl

theorem map_tags_missTable (misses : List Miss) :
    (missTable misses).markup.map tags =
      List.replicate 6 [] ++ misses.flatMap fun _ => List.replicate 5 [] := by
  have hfixed : ∀ t ∈ ("Unresolved imports" : Text) :: (missTable misses).columns, Unmarked t := by
    change ∀ t ∈ ("Unresolved imports" : Text) :: (missTable []).columns, ∀ c ∈ t,
      c ≠ backslash ∧ c ≠ openBracket
    decide
  have hrows : (missTable misses).rows.flatten.map tags =
      misses.flatMap fun _ => List.replicate 5 [] := by
    rw [missTable, List.map_flatten, List.map_map, List.flatMap]
    exact congrArg List.flatten (List.map_congr_left fun m _ => map_tags_missRow m)
  have hmarkup : (missTable misses).markup =
      (("Unresolved imports" : Text) :: (missTable misses).columns) ++
        (missTable misses).rows.flatten := rfl
  rw [hmarkup, List.map_append, hrows, map_tags_unmarked hfixed]
  rfl

def reportTags (r : Report) : List (List Tag) :=
  if r.allResolved then [tags (Console.Status.success.line [])]
  else (List.replicate 6 [] ++ r.unresolved.flatMap fun _ => List.replicate 5 []) ++
    [tags (Console.Status.warning.line [])]

theorem map_tags_reportMarkup (r : Report) : (reportMarkup r).map tags = reportTags r := by
  have hall : Unmarked ("All " : Text) := by unfold Unmarked; decide
  have hof : Unmarked (" of " : Text) := by unfold Unmarked; decide
  have hresolved : Unmarked (" imports resolved" : Text) := by unfold Unmarked; decide
  have hunresolved : Unmarked (" imports unresolved" : Text) := by unfold Unmarked; decide
  have hsuccess := (hall.append (unmarked_ofNat r.total)).append hresolved
  have hwarning := (((unmarked_ofNat r.unresolved.length).append hof).append
    (unmarked_ofNat r.total)).append hunresolved
  rw [reportMarkup, reportParts, reportTags]
  split_ifs
  · rw [List.flatMap_singleton, Part.markup, List.map_singleton, resolvedLine, tags_line,
      hsuccess.tags_eq_nil, List.append_nil]
  · rw [List.flatMap_cons, List.flatMap_singleton, Part.markup, Part.markup, List.map_append,
      map_tags_missTable, List.map_singleton, unresolvedLine, tags_line, hwarning.tags_eq_nil,
      List.append_nil]

theorem areShown_entityTags (e : Option Entity) : areShown (entityTags e) = true := by
  rw [entityTags]
  split_ifs <;> decide +kernel

theorem areShown_nil : areShown [] = true := rfl

theorem areShown_rowTags (s : Stub) : ∀ ts ∈ rowTags s, areShown ts = true := by
  simp only [rowTags, List.forall_mem_cons, areShown_nil, areShown_entityTags]
  simp

theorem areShown_sessionTags (s : Session) : ∀ ts ∈ sessionTags s, areShown ts = true := by
  have hfixed : ∀ ts ∈ [titleTags, summaryTags], areShown ts = true := by decide +kernel
  refine List.forall_mem_append.mpr ⟨hfixed, fun ts hts => ?_⟩
  obtain ⟨kind, -, hmem⟩ := List.mem_flatMap.mp hts
  rcases List.mem_append.mp hmem with hempty | hrow
  · rw [List.eq_of_mem_replicate hempty, areShown_nil]
  · obtain ⟨stub, -, hstub⟩ := List.mem_flatMap.mp hrow
    exact areShown_rowTags stub ts hstub

theorem normalize_style (status : Console.Status) :
    Console.Style.normalize status.style = .ok (status.style : Text) := by
  refine Console.Style.normalize_of_unknown ?_ ?_ ?_ ?_ ?_
    (Console.Color.check_of_notMem ?_ ?_ ?_ ?_) <;> cases status <;> decide +kernel

theorem tags_emptyLine (status : Console.Status) :
    tags (status.line []) = [⟨status.style, none⟩, ⟨.char '/' :: status.style, none⟩] := by
  cases status <;> decide +kernel

theorem areShown_line (status : Console.Status) : areShown (tags (status.line [])) = true := by
  have hdefines : Console.Theme.defines status.style = true := by cases status <;> rfl
  have hknown := Console.Theme.isKnown_of_defines hdefines
  have htrim : Text.trimWhile Text.isSpacing status.style = status.style := by
    cases status <;> rfl
  have hnormal := normalize_style status
  rw [tags_emptyLine]
  cases status with
  | success | warning | error => exact areShown_pair (by decide) (by decide) hnormal htrim hknown

theorem areShown_reportTags (r : Report) : ∀ ts ∈ reportTags r, areShown ts = true := by
  rw [reportTags]
  split_ifs
  · exact List.forall_mem_singleton.mpr (areShown_line .success)
  refine List.forall_mem_append.mpr
    ⟨fun ts hts => ?_, List.forall_mem_singleton.mpr (areShown_line .warning)⟩
  rcases List.mem_append.mp hts with hempty | hrow
  · rw [List.eq_of_mem_replicate hempty, areShown_nil]
  · obtain ⟨miss, -, hmiss⟩ := List.mem_flatMap.mp hrow
    rw [List.eq_of_mem_replicate hmiss, areShown_nil]

theorem isShown_sessionMarkup (s : Session) : ∀ m ∈ sessionMarkup s, IsShown m := by
  intro m hm
  have hmem : tags m ∈ sessionTags s := by
    rw [← map_tags_sessionMarkup]
    exact List.mem_map_of_mem hm
  exact areShown_sessionTags s _ hmem

theorem isShown_reportMarkup (r : Report) : ∀ m ∈ reportMarkup r, IsShown m := by
  intro m hm
  have hmem : tags m ∈ reportTags r := by
    rw [← map_tags_reportMarkup]
    exact List.mem_map_of_mem hm
  exact areShown_reportTags r _ hmem

theorem isShown_errorLine (message : Text) : IsShown (errorLine message) := by
  rw [IsShown, tags_errorLine]
  exact areShown_line .error

theorem Part.printable_print (c : Console) {part : Part} (h : ∀ m ∈ part.markup, IsShown m)
    (hstyles : ∀ style ∈ part.styles, Console.Theme.isKnown style = true) :
    Printable (part.print c) := by
  cases part with
  | panel p =>
    obtain ⟨htitle, hbody⟩ := List.forall_mem_cons.mp h
    exact Console.printable_panel c htitle (hbody _ (List.mem_singleton_self _))
  | table t styles => exact Console.printable_table c h hstyles
  | line m => exact Console.printable_print c (h m (List.mem_singleton_self m))

theorem printable_parts (c : Console) {parts : List Part}
    (h : ∀ m ∈ parts.flatMap Part.markup, IsShown m)
    (hstyles : ∀ part ∈ parts, ∀ style ∈ part.styles, Console.Theme.isKnown style = true) :
    Printable (parts.mapM (Part.print c)) :=
  Console.printable_mapM fun part hpart => Part.printable_print c
    (fun m hm => h m (List.mem_flatMap.mpr ⟨part, hpart, hm⟩)) (hstyles part hpart)

/-- A session can be printed, whatever names stand in it. -/
theorem printable_session (c : Console) (s : Session) : Printable (session c s) := by
  have hknown : ∀ style ∈ stubStyles, Console.Theme.isKnown style = true := by decide +kernel
  refine printable_parts c (isShown_sessionMarkup s) (List.forall_mem_cons.mpr ⟨?_, ?_⟩)
  · intro style hstyle
    cases hstyle
  · exact List.forall_mem_map.mpr fun _ _ => hknown

theorem printable_report (c : Console) (r : Report) : Printable (report c r) := by
  have hknown : ∀ style ∈ missStyles, Console.Theme.isKnown style = true := by decide +kernel
  have hline : ∀ m, ∀ style ∈ (Part.line m).styles, Console.Theme.isKnown style = true := by
    intro m style hstyle
    cases hstyle
  refine printable_parts c (isShown_reportMarkup r) ?_
  rw [reportParts]
  split_ifs
  · exact List.forall_mem_singleton.mpr (hline _)
  · exact List.forall_mem_cons.mpr ⟨hknown, List.forall_mem_singleton.mpr (hline _)⟩

theorem printable_errorLine (c : Console) (message : Text) :
    Printable (c.print (errorLine message)) :=
  Console.printable_print c (isShown_errorLine message)

/-- Stubs that differ in names only: they have a symbol and entities together. -/
structure StubsAlike (a b : Stub) : Prop where
  address_eq : a.address = b.address
  libraryNid_eq : a.libraryNid = b.libraryNid
  moduleNid_eq : a.moduleNid = b.moduleNid
  targetNid_eq : a.targetNid = b.targetNid
  symbol_isSome : a.symbol.isSome = b.symbol.isSome
  library_isSome : a.library.isSome = b.library.isSome
  module_isSome : a.module.isSome = b.module.isSome
  target_isSome : a.target.isSome = b.target.isSome

/-- Sessions that differ in the path and in names only. -/
structure SessionsAlike (s t : Session) : Prop where
  stubSections_eq : s.stubSections = t.stubSections
  length_symbols : s.symbols.length = t.symbols.length
  stubs : ∀ kind, List.Forall₂ StubsAlike (s.stubs.get kind) (t.stubs.get kind)

structure MissesAlike (a b : Miss) : Prop where
  address_eq : a.address = b.address
  stageName_eq : a.stageName = b.stageName
  nid_eq : a.nid = b.nid

/-- Reports that differ in the names of symbols only. -/
structure ReportsAlike (r q : Report) : Prop where
  total_eq : r.total = q.total
  resolved_eq : r.resolved = q.resolved
  unresolved : List.Forall₂ MissesAlike r.unresolved q.unresolved

/-- Markup that is shown in both cases, with the same tags. -/
structure SameTags (m m' : Text) : Prop where
  tags_eq : tags m = tags m'
  rendered : ∃ shown, render m = .ok shown
  rendered' : ∃ shown, render m' = .ok shown

theorem sameTags_of_isShown {m m' : Text} (h : IsShown m) (heq : tags m = tags m') :
    SameTags m m' := by
  have h' : IsShown m' := by rwa [IsShown, ← heq]
  obtain ⟨shown, hshown, -⟩ := render_of_areShown h
  obtain ⟨shown', hshown', -⟩ := render_of_areShown h'
  exact ⟨heq, ⟨shown, hshown⟩, shown', hshown'⟩

theorem forall₂_sameTags {ms ms' : List Text} (h : ∀ m ∈ ms, IsShown m)
    (heq : ms.map tags = ms'.map tags) : List.Forall₂ SameTags ms ms' := by
  induction ms generalizing ms' with
  | nil =>
    obtain rfl := List.map_eq_nil_iff.mp heq.symm
    exact .nil
  | cons m ms ih =>
    obtain ⟨m', rest', rfl, hfirst, hrest⟩ := List.map_eq_cons_iff.mp heq.symm
    obtain ⟨hm, hms⟩ := List.forall_mem_cons.mp h
    exact .cons (sameTags_of_isShown hm hfirst.symm) (ih hms hrest.symm)

theorem StubsAlike.rowTags_eq {a b : Stub} (h : StubsAlike a b) : rowTags a = rowTags b := by
  simp only [rowTags, entityTags, h.library_isSome, h.module_isSome, h.target_isSome]

theorem SessionsAlike.sessionTags_eq {s t : Session} (h : SessionsAlike s t) :
    sessionTags s = sessionTags t := by
  have hrows : ∀ kind, (s.stubs.get kind).flatMap rowTags = (t.stubs.get kind).flatMap rowTags := by
    intro kind
    have hmap : (s.stubs.get kind).map rowTags = (t.stubs.get kind).map rowTags :=
      List.forall₂_eq_eq_eq ▸ List.forall₂_map_left_iff.mpr
        (List.forall₂_map_right_iff.mpr ((h.stubs kind).imp fun _ _ => StubsAlike.rowTags_eq))
    exact congrArg List.flatten hmap
  simp only [sessionTags, h.stubSections_eq, hrows]

theorem ReportsAlike.reportTags_eq {r q : Report} (h : ReportsAlike r q) :
    reportTags r = reportTags q := by
  have hall : r.allResolved = q.allResolved := by
    rw [Report.allResolved, Report.allResolved, Bool.eq_iff_iff, List.isEmpty_iff_length_eq_zero,
      List.isEmpty_iff_length_eq_zero, h.unresolved.length_eq]
  have hrows : r.unresolved.flatMap (fun _ => List.replicate 5 ([] : List Tag)) =
      q.unresolved.flatMap fun _ => List.replicate 5 [] := by
    rw [List.flatMap, List.flatMap, List.map_const', List.map_const', h.unresolved.length_eq]
  rw [reportTags, reportTags, hall, hrows]

/-- Whatever the path and the names are, all that is printed of a session, of a report or of an
error has the same tags and is printed without an error. -/
theorem sameTags_of_alike {s t : Session} (h : SessionsAlike s t) {r q : Report}
    (hr : ReportsAlike r q) (message message' : Text) (c : Console) :
    List.Forall₂ SameTags (sessionMarkup s) (sessionMarkup t) ∧
      List.Forall₂ SameTags (reportMarkup r) (reportMarkup q) ∧
      SameTags (errorLine message) (errorLine message') ∧
      Printable (session c s) ∧ Printable (report c r) ∧
      ∃ line, Command.Outcome.refused c message = .written [line] 1 := by
  have hsession : (sessionMarkup s).map tags = (sessionMarkup t).map tags := by
    rw [map_tags_sessionMarkup, map_tags_sessionMarkup, h.sessionTags_eq]
  have hreport : (reportMarkup r).map tags = (reportMarkup q).map tags := by
    rw [map_tags_reportMarkup, map_tags_reportMarkup, hr.reportTags_eq]
  have hline : tags (errorLine message) = tags (errorLine message') := by
    rw [tags_errorLine, tags_errorLine]
  obtain ⟨line, hprinted, -⟩ := printable_errorLine c message
  refine ⟨forall₂_sameTags (isShown_sessionMarkup s) hsession,
    forall₂_sameTags (isShown_reportMarkup r) hreport,
    sameTags_of_isShown (isShown_errorLine message) hline, printable_session c s,
    printable_report c r, line, ?_⟩
  rw [Command.Outcome.refused, hprinted]
  rfl

/-- A stub of one function, and a session of it. -/
def namedStub (name : Text) : Stub :=
  { kind := .functionStub, address := 0x1000, libraryNid := 1, moduleNid := 2, targetNid := 3
    symbol := some { (default : Symbol) with name }, library := some (.library ⟨name, 1, []⟩) }

def namedSession (name : Text) : Session where
  image := { (default : Image) with path := name }
  stubs := ⟨[namedStub name], []⟩
  stubSections := ⟨1, 0⟩
  symbols := []

def namedReport (name : Text) : Report :=
  { total := 1, unresolved := [⟨.functionStub, 0x1000, .module, 2, name⟩] }

/-- A plain name, and one that looks like tags after backslashes and starts another tag. -/
theorem sameTags_of_alike_bold :
    SessionsAlike (namedSession "f") (namedSession "[/bold]\\[dim]\\[x") ∧
      ReportsAlike (namedReport "f") (namedReport "[/bold]\\[dim]\\[x") ∧
      List.Forall₂ SameTags (sessionMarkup (namedSession "f"))
        (sessionMarkup (namedSession "[/bold]\\[dim]\\[x")) := by
  have hstub : ∀ name other, StubsAlike (namedStub name) (namedStub other) := fun name other =>
    ⟨rfl, rfl, rfl, rfl, rfl, rfl, rfl, rfl⟩
  have hsession : SessionsAlike (namedSession "f") (namedSession "[/bold]\\[dim]\\[x") := by
    refine ⟨rfl, rfl, fun kind => ?_⟩
    cases kind with
    | functionStub => exact .cons (hstub _ _) .nil
    | variableStub => exact .nil
  have hreport : ReportsAlike (namedReport "f") (namedReport "[/bold]\\[dim]\\[x") :=
    ⟨rfl, rfl, .cons ⟨rfl, rfl, rfl⟩ .nil⟩
  exact ⟨hsession, hreport, (sameTags_of_alike hsession hreport "f" "[" {}).1⟩

end Display
end ImportStubs
