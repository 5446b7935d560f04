import ImportStubs.Log.Line
import ImportStubs.Proofs.Json.Lines
import ImportStubs.Proofs.Log.Hierarchy
import ImportStubs.Proofs.Log.Scopes
import Mathlib.Data.List.Forall2

/-!
# Lines of a log in JSON

A log in JSON has a line for each call that is kept, in the order of the calls. A line can neither
be split nor forged by what stands in a message, a name or a field: it is read as the one document
that tells the call and its time.
-/

namespace ImportStubs

namespace Log

/-- The threshold that counts for a logger among others. -/
def Registry.effective (r : Registry) (tool : Text) (threshold : ℕ) : ℕ :=
  if threshold = 0 then r.inherited ("vitalink." ++ tool) else threshold

@[simp] theorem Reading.hasSurrogate_places (width n : ℕ) :
    Text.hasSurrogate (places width n) = false :=
  Text.hasSurrogate_ofChars _

@[simp] theorem Reading.hasSurrogate_instant (moment : Date × ClockTime) :
    Text.hasSurrogate (instant moment) = false := by
  simp [instant]

theorem Reading.hasSurrogate_timestamp (r : Reading) :
    Text.hasSurrogate r.timestamp = false := by
  unfold timestamp
  split_ifs <;> simp

end Log

namespace Routine

/-- A routine inside an operation, or outside of any. -/
def within (operation : Option Text) (r : Routine) : Routine :=
  match operation with
  | none => r
  | some name => .operation name r

/-- Log calls in their order, each with the operation that is current for it. -/
def calls : List (Option Text × LogCall) → Routine
  | [] => .skip
  | l :: rest => .sequence (within l.1 (.call l.2)) (calls rest)

theorem trace_within (logger : Logger) (operation : Option Text) (r : Routine) :
    (within operation r).trace logger [] = r.trace logger (operation.map .operation).toList := by
  cases operation <;> rfl

end Routine

namespace LogCall

/-- A call that can be told in a line. -/
structure Writable (c : LogCall) : Prop where
  /-- The template fits the arguments. -/
  message : ∃ message, Template.format c.template c.arguments = .ok message ∧
    message.hasSurrogate = false
  names : (c.fields.map Prod.fst).Nodup
  /-- No field has the name of an option of the call. -/
  free : ∀ m ∈ c.fields, ∀ name ∈ optionNames ++ reservedNames, m.1 ≠ Text.ofString name
  texts : ∀ m ∈ c.fields, m.1.hasSurrogate = false
  values : ∀ m ∈ c.fields, Json.Clean m.2

/-- The members of the document that tells a call and its time. An operation without a name counts
as none. -/
def members (reading : Log.Reading) (tool : Text) (operation : Option Text) (c : LogCall)
    (message : Text) : List (Text × Value) :=
  let extra : List (Text × Value) := if c.fields.isEmpty then [] else [("extra", .table c.fields)]
  ("timestamp", .text reading.timestamp) :: ("level", .text c.level.name) ::
    ("logger", .text ("vitalink." ++ tool)) :: ("message", .text message) ::
    ("tool_name", .text tool) ::
    ("operation", .text (Routine.operationOf (operation.map .operation).toList)) :: extra

/-- The line is read as the document that tells the call. Without arguments the message is the
template as it stands. -/
def Tells (reading : Log.Reading) (tool : Text) (l : Option Text × LogCall) (line : List Char) :
    Prop :=
  ∃ message, Template.format l.2.template l.2.arguments = .ok message ∧
    (l.2.arguments = [] → message = l.2.template) ∧
    Json.read line = .ok (.table (l.2.members reading tool l.1 message))

section Writable

variable {c : LogCall} (h : c.Writable)
include h

theorem Writable.is_eq_false {m : Text × Value} (hm : m ∈ c.fields) {name : String}
    (hname : name ∈ optionNames ++ reservedNames) : m.1.is name = false := by
  rw [Text.is, beq_eq_false_iff_ne]
  exact h.free m hm name hname

theorem Writable.message_eq {message : Text}
    (hmessage : Template.format c.template c.arguments = .ok message) (logger : Logger) :
    c.message logger = .ok (if logger.isEnabled c.level then some message else none) := by
  have hreserved : (c.fields.any fun m => reservedNames.any (m.1.is ·)) = false := by
    simp only [List.any_eq_false, Bool.not_eq_true]
    intro m hm name hname
    exact h.is_eq_false hm (List.mem_append_right _ hname)
  have hstack : Value.member? "stacklevel" c.fields = none := by
    apply lookup_eq_none_iff_notMem.mpr
    intro hmem
    obtain ⟨m, hm, hname⟩ := List.mem_map.mp hmem
    exact h.free m hm "stacklevel" (by decide) hname
  unfold LogCall.message
  rw [hreserved, hstack, hmessage]
  cases logger.isEnabled c.level <;> simp

theorem Writable.entryFields_eq : c.entryFields = c.fields := by
  apply List.filter_eq_self.mpr
  intro m hm
  simp only [isOption, Bool.not_eq_true', List.any_eq_false, Bool.not_eq_true]
  intro name hname
  exact h.is_eq_false hm (List.mem_append_left _ hname)

theorem Writable.clean_members (reading : Log.Reading) {tool message : Text}
    {operation : Option Text} (htool : tool.hasSurrogate = false)
    (hmessage : message.hasSurrogate = false)
    (hoperation : ∀ name, operation = some name → name.hasSurrogate = false) :
    Json.Clean (.table (c.members reading tool operation message)) := by
  have hlogger : Text.hasSurrogate ("vitalink." ++ tool) = false := by simp [htool]
  have hname :
      Text.hasSurrogate (Routine.operationOf (operation.map .operation).toList) = false := by
    cases operation with
    | none => exact Text.hasSurrogate_ofString "-"
    | some name =>
      simp only [Option.map_some, Option.toList_some, Routine.operationOf]
      split_ifs
      · exact Text.hasSurrogate_ofString "-"
      · exact hoperation name rfl
  have hfields : Json.Clean (.table c.fields) := .table h.names h.texts h.values
  have hlevel := Text.hasSurrogate_ofString c.level.name
  have htime := reading.hasSurrogate_timestamp
  unfold members
  cases c.fields.isEmpty with
  | true =>
    apply Json.clean_fields
      ["timestamp", "level", "logger", "message", "tool_name", "operation"] rfl (by decide)
    simp only [if_true, List.forall_mem_cons]
    exact ⟨.text htime, .text hlevel, .text hlogger, .text hmessage, .text htool, .text hname,
      by simp⟩
  | false =>
    apply Json.clean_fields
      ["timestamp", "level", "logger", "message", "tool_name", "operation", "extra"] rfl (by decide)
    simp only [Bool.false_eq_true, if_false, List.forall_mem_cons]
    exact ⟨.text htime, .text hlevel, .text hlogger, .text hmessage, .text htool, .text hname,
      hfields, by simp⟩

end Writable

/-- The entry is written as a line that tells the call, whenever that is made. -/
def WrittenAs (logger : Logger) (l : Option Text × LogCall) (e : LogEntry) : Prop :=
  ∀ reading, ∃ line, e.jsonLine logger reading = Text.ofChars line ∧ '\n' ∉ line ∧
    Tells reading logger.tool l line

theorem Writable.exists_entry {c : LogCall} (h : c.Writable) {logger : Logger}
    {operation : Option Text} (htool : logger.tool.hasSurrogate = false)
    (hoperation : ∀ name, operation = some name → name.hasSurrogate = false) :
    ∃ message, Template.format c.template c.arguments = .ok message ∧
      WrittenAs logger (operation, c)
        (c.entry (Routine.operationOf (operation.map .operation).toList) message) := by
  obtain ⟨message, hformat, hmessage⟩ := h.message
  refine ⟨message, hformat, fun reading => ?_⟩
  obtain ⟨line, hline, hfeed, hread⟩ :=
    Json.read_writeLine (h.clean_members reading htool hmessage hoperation)
  refine ⟨line, ?_, hfeed, message, hformat, ?_, hread⟩
  · rw [← hline]
    unfold LogEntry.jsonLine LogEntry.toFields LogCall.entry LogCall.members
    rw [h.entryFields_eq]
    rfl
  · intro hnone
    rw [hnone] at hformat
    exact (Except.ok.inj hformat).symm

theorem exists_entries (logger : Logger) {calls : List (Option Text × LogCall)}
    (htool : logger.tool.hasSurrogate = false)
    (hoperations : ∀ l ∈ calls, ∀ name, l.1 = some name → name.hasSurrogate = false)
    (hcalls : ∀ l ∈ calls, l.2.Writable) :
    ∃ entries, (Routine.calls calls).trace logger [] = (true, entries) ∧
      List.Forall₂ (WrittenAs logger) (calls.filter fun l => logger.isEnabled l.2.level)
        entries := by
  induction calls with
  | nil => exact ⟨[], rfl, .nil⟩
  | cons l calls ih =>
    obtain ⟨hoperation, hoperations⟩ := List.forall_mem_cons.mp hoperations
    obtain ⟨hcall, hcalls⟩ := List.forall_mem_cons.mp hcalls
    obtain ⟨entries, htrace, hwritten⟩ := ih hoperations hcalls
    obtain ⟨message, hformat, hfirst⟩ := hcall.exists_entry htool hoperation
    refine ⟨(if logger.isEnabled l.2.level then
        [l.2.entry (Routine.operationOf (l.1.map .operation).toList) message] else []) ++ entries,
      ?_, ?_⟩
    · rw [Routine.calls, Routine.trace, Routine.trace_within, Routine.trace,
        hcall.message_eq hformat, htrace]
      cases logger.isEnabled l.2.level <;> rfl
    · cases hkept : logger.isEnabled l.2.level with
      | false => simpa [hkept] using hwritten
      | true => simpa [hkept] using And.intro hfirst hwritten

/-- Entries that stand from some position on in a log have their lines, each with its time. -/
theorem exists_lines {logger : Logger} {calls : List (Option Text × LogCall)}
    {entries : List LogEntry} (h : List.Forall₂ (WrittenAs logger) calls entries)
    (clock : ℕ → Log.Reading) (n : ℕ) :
    ∃ lines, ((entries.zipIdx n).map fun e => e.1.jsonLine logger (clock e.2)) =
        lines.map Text.ofChars ∧
      List.Forall₂ (fun l line => '\n' ∉ line ∧ Tells (clock l.2) logger.tool l.1 line)
        (calls.zipIdx n) lines := by
  induction h generalizing n with
  | nil => exact ⟨[], rfl, .nil⟩
  | @cons l e calls entries hfirst _ ih =>
    obtain ⟨line, hline, hfeed, htells⟩ := hfirst (clock n)
    obtain ⟨lines, hlines, htold⟩ := ih (n + 1)
    refine ⟨line :: lines, ?_, ?_⟩
    · rw [List.zipIdx_cons, List.map_cons, List.map_cons, hlines, hline]
    · exact .cons ⟨hfeed, htells⟩ htold

end LogCall

theorem Logger.file_eq {logger : Logger} {clock : ℕ → Log.Reading} {lines : List (List Char)}
    (h : (logger.entries.zipIdx.map fun e => e.1.jsonLine logger (clock e.2)) =
      lines.map Text.ofChars) :
    logger.file true clock = lines.flatMap fun line => Text.ofChars line ++ [.char '\n'] := by
  have hwritten : ∀ t ∈ lines.map Text.ofChars, (!Text.hasSurrogate t) = true := by
    intro t ht
    obtain ⟨cs, -, rfl⟩ := List.mem_map.mp ht
    rw [Text.hasSurrogate_ofChars]
    rfl
  unfold Logger.file
  simp only [if_true]
  rw [h, List.filter_eq_self.mpr hwritten, List.flatMap_map]

/-- A log in JSON has exactly one line for each call that is kept, in the order of the calls. No
line has a line feed inside, and each is read as what was logged and when. -/
theorem file_tells_calls {tool : Text} {calls : List (Option Text × LogCall)}
    (htool : tool.hasSurrogate = false)
    (hoperations : ∀ l ∈ calls, ∀ name, l.1 = some name → name.hasSurrogate = false)
    (hcalls : ∀ l ∈ calls, l.2.Writable) (registry : Log.Registry) (threshold : ℕ)
    (hasConsole : Bool) (clock : ℕ → Log.Reading) :
    ∃ logger lines,
      (Routine.calls calls).run.run
          { tool, threshold, inherited := registry.inherited ("vitalink." ++ tool), hasConsole } =
        (true, logger) ∧
        logger.file true clock = lines.flatMap (fun line => Text.ofChars line ++ [.char '\n']) ∧
        List.Forall₂ (fun l line => '\n' ∉ line ∧ LogCall.Tells (clock l.2) tool l.1 line)
          (calls.filter fun l => registry.effective tool threshold ≤ l.2.level.number).zipIdx
          lines := by
  let start : Logger :=
    { tool, threshold, inherited := registry.inherited ("vitalink." ++ tool), hasConsole }
  obtain ⟨entries, htrace, hwritten⟩ := LogCall.exists_entries start htool hoperations hcalls
  obtain ⟨lines, hlines, htold⟩ := LogCall.exists_lines hwritten clock 0
  refine ⟨start.extended entries, lines, ?_, Logger.file_eq hlines, htold⟩
  have hnone : start.operationName = Routine.operationOf [] := rfl
  rw [Routine.run_eq (Routine.calls calls) start hnone, htrace]

/-- A call inside an operation, and one that is not kept. -/
def sampleCalls : List (Option Text × LogCall) :=
  [(some "scan",
      { level := .info
        template := "%s"
        arguments := [.text "a\n\"b"]
        fields := [("offsets", .list [.int 1, .null])] }),
    (none, { level := .debug, template := "100%" })]

def sampleRegistry : Log.Registry := { thresholds := [("vitalink.elf", 20)] }

/-- One second goes by from each entry to the next. -/
def sampleClock (n : ℕ) : Log.Reading :=
  { universal := (⟨2024, 2, 29⟩, ⟨23, 59, n, 0⟩)
    here := (⟨2024, 3, 1⟩, ⟨0, 59, n, 0⟩)
    offset := 60 }

/-- The logger has no threshold, and the one above it keeps what informs. -/
theorem file_tells_sampleCalls :
    ∃ logger lines,
      (Routine.calls sampleCalls).run.run
          { tool := "elf.stubs"
            threshold := 0
            inherited := sampleRegistry.inherited "vitalink.elf.stubs" } =
        (true, logger) ∧
        logger.file true sampleClock =
          lines.flatMap (fun line => Text.ofChars line ++ [.char '\n']) ∧
        List.Forall₂
          (fun l line => '\n' ∉ line ∧ LogCall.Tells (sampleClock l.2) "elf.stubs" l.1 line)
          (sampleCalls.filter fun l =>
            sampleRegistry.effective "elf.stubs" 0 ≤ l.2.level.number).zipIdx
          lines := by
  have hscan : LogCall.Writable
      { level := .info
        template := "%s"
        arguments := [.text "a\n\"b"]
        fields := [("offsets", .list [.int 1, .null])] } := by
    refine ⟨⟨"a\n\"b", by decide +kernel, by decide⟩, by decide, ?_, ?_, ?_⟩
    · simp [LogCall.optionNames, LogCall.reservedNames, Text.ofString_injective.eq_iff]
    · simp
    · simp only [List.forall_mem_cons, List.not_mem_nil, false_imp_iff, implies_true, and_true]
      apply Json.Clean.list
      simp only [List.forall_mem_cons, List.not_mem_nil, false_imp_iff, implies_true, and_true]
      exact ⟨.int (by decide +kernel), .null⟩
  have hskipped : LogCall.Writable { level := .debug, template := "100%" } := by
    refine ⟨⟨"100%", rfl, by decide⟩, by decide, ?_, ?_, ?_⟩ <;> simp
  refine file_tells_calls (by decide) ?_ ?_ sampleRegistry 0 false sampleClock
  · simp [sampleCalls]
  · simp only [sampleCalls, List.forall_mem_cons]
    exact ⟨hscan, hskipped, by simp⟩

/-- Whether a call goes through, and the log in JSON after it. -/
def logged (threshold : ℕ) (l : Option Text × LogCall) : Bool × Text :=
  let (ended, logger) := (Routine.calls [l]).run.run { tool := "t", threshold }
  (ended, logger.file true fun _ => default)

/-- A call has no line if an argument or the name of a field has a lone surrogate, if a field is
called like a parameter, or if no threshold is set and it is no warning. The empty name of an
operation is not told. -/
theorem logged_exceptions :
    logged 20 (none, { level := .info, template := "%s", arguments := [.text [.surrogate 0]] }) =
        (true, []) ∧
      logged 20 (none, { level := .info, template := "m", fields := [("msg", .text "x")] }) =
        (false, []) ∧
      logged 0 (none, { level := .info, template := "m" }) = (true, []) ∧
      logged 20 (none, { level := .info, template := "m", fields := [([.surrogate 0], .null)] }) =
        (true, []) ∧
      logged 20 (some [], { level := .info, template := "m" }) =
        logged 20 (none, { level := .info, template := "m" }) := by
  refine ⟨?_, ?_, ?_, ?_, ?_⟩
  · decide +kernel
  · decide +kernel
  · decide +kernel
  · decide +kernel
  · decide +kernel

end ImportStubs
