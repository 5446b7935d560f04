import ImportStubs.Proofs.Command.Document
import ImportStubs.Proofs.Command.Steps
import ImportStubs.Proofs.Log.Lines

/-!
# A log in front of a document

A log that leads to the standard output stands there before the document. The two together are read
as no document with stubs: a line of text begins with the digits of a year, and a line of JSON is a
document of its own that has other members.
-/

namespace ImportStubs

theorem Radix.isDigit_digit {n : ℕ} (h : n < 10) : Json.isDigit (digit .lower n) = true := by
  interval_cases n <;> decide

theorem Radix.isDigit_digits (n : ℕ) : ∀ c ∈ digits 10 .lower n, Json.isDigit c = true := by
  induction n using Nat.strongRecOn with
  | ind n ih =>
    unfold digits
    split_ifs with hlong
    · intro c hc
      rcases List.mem_append.mp hc with hfirst | hlast
      · exact ih (n / 10) (by omega) c hfirst
      · obtain rfl := List.mem_singleton.mp hlast
        exact isDigit_digit (Nat.mod_lt n (by decide))
    · intro c hc
      obtain rfl := List.mem_singleton.mp hc
      exact isDigit_digit (by omega)

theorem Radix.digits_ne_nil (radix : ℕ) (letters : LetterCase) (n : ℕ) :
    digits radix letters n ≠ [] := by
  unfold digits
  split_ifs <;> simp

/-- The text starts with a digit. -/
def StartsWithDigit (t : Text) : Prop := ∃ d rest, t = .char d :: rest ∧ Json.isDigit d = true

theorem StartsWithDigit.append {t : Text} (h : StartsWithDigit t) (u : Text) :
    StartsWithDigit (t ++ u) := by
  obtain ⟨d, rest, rfl, hd⟩ := h
  exact ⟨d, rest ++ u, rfl, hd⟩

theorem Log.startsWithDigit_places (width n : ℕ) : StartsWithDigit (Reading.places width n) := by
  have hplaces : Reading.places width n = Text.ofChars
      (List.replicate (width - (Radix.digits 10 .lower n).length) '0' ++
        Radix.digits 10 .lower n) := by
    have hnonneg : ¬(n : Int) < 0 := Int.not_lt.mpr (Int.natCast_nonneg n)
    simp [Reading.places, Text.padded, hnonneg]
  have hdigits : ∀ c ∈ List.replicate (width - (Radix.digits 10 .lower n).length) '0' ++
      Radix.digits 10 .lower n, Json.isDigit c = true := by
    refine List.forall_mem_append.mpr ⟨fun c hc => ?_, Radix.isDigit_digits n⟩
    rw [List.eq_of_mem_replicate hc]
    decide
  rw [hplaces]
  cases hcs : List.replicate (width - (Radix.digits 10 .lower n).length) '0' ++
      Radix.digits 10 .lower n with
  | nil => exact absurd (List.append_eq_nil_iff.mp hcs).2 (Radix.digits_ne_nil 10 .lower n)
  | cons d rest => exact ⟨d, Text.ofChars rest, rfl, hdigits d (hcs ▸ List.mem_cons_self ..)⟩

theorem Log.startsWithDigit_localTime (reading : Reading) : StartsWithDigit reading.localTime := by
  unfold Reading.localTime Reading.instant
  simp only [List.append_assoc]
  exact (startsWithDigit_places 4 _).append _

theorem StartsWithDigit.endLine {t : Text} (h : StartsWithDigit t) :
    StartsWithDigit (LogEntry.endLine t) := by
  unfold LogEntry.endLine
  split_ifs
  · exact h
  · exact h.append _

/-- The first thing in a line of text is the year. -/
theorem LogEntry.startsWithDigit_textLine (logger : Logger) (reading : Log.Reading)
    (e : LogEntry) : StartsWithDigit (e.textLine logger reading) := by
  have hline : ∀ level component operation message separator : Text, StartsWithDigit
      (reading.localTime ++ separator ++ level ++ separator ++ component ++ separator ++
        operation ++ separator ++ message) := by
    intro level component operation message separator
    simp only [List.append_assoc]
    exact (Log.startsWithDigit_localTime reading).append _
  unfold textLine
  cases e.emptyTrace with
  | true => exact (hline _ _ _ _ _).endLine.append _
  | false => exact hline _ _ _ _ _

namespace Json

theorem exists_readValue_of_read {cs : List Char} {v : Value} (h : read cs = .ok v) :
    ∃ rest, bare (readValue (skipBlanks cs)) = .ok (v, rest) := by
  unfold read at h
  split at h
  · cases h
  next found rest hvalue =>
    split_ifs at h
    cases h
    exact ⟨_, bare_of_ok hvalue⟩

/-- What is read of a text is the value at its start. -/
theorem eq_of_read_of_starts {cs rest : List Char} {v w : Value} (hstarts : Starts cs v rest)
    (h : read cs = .ok w) : w = v := by
  obtain ⟨after, hvalue⟩ := exists_readValue_of_read h
  rw [hstarts.skipBlanks_eq] at hvalue
  obtain ⟨_, hread⟩ := hstarts
  rw [bare_of_ok hread] at hvalue
  exact (Prod.mk.inj (Except.ok.inj hvalue)).1.symm

/-- A number has no members. -/
theorem member?_of_readMagnitude {negative : Bool} {cs rest : List Char} {v : Value}
    (h : readMagnitude negative cs = .ok (v, rest)) (name : String) :
    Command.member? name v = none := by
  unfold readMagnitude at h
  split at h
  · cases h
  · dsimp only at h
    split at h
    · split at h
      · obtain ⟨rfl, -⟩ := Prod.mk.inj (Except.ok.inj h)
        rfl
      · cases h
    · obtain ⟨rfl, -⟩ := Prod.mk.inj (Except.ok.inj h)
      rfl

theorem member?_of_read_digit {d : Char} (hd : isDigit d = true) {rest : List Char} {v : Value}
    (h : read (d :: rest) = .ok v) (name : String) : Command.member? name v = none := by
  have hblanks : skipBlanks (d :: rest) = d :: rest := by
    refine List.dropWhile_cons_of_neg fun hblank => ?_
    simp only [isBlank, Bool.or_eq_true, beq_iff_eq, or_assoc] at hblank
    rcases hblank with rfl | rfl | rfl | rfl <;> exact absurd hd (by decide)
  obtain ⟨after, hvalue⟩ := exists_readValue_of_read h
  rw [hblanks, bare_readValue_number (notMem_otherStarts (.inr hd)), readNumber_digit hd] at hvalue
  exact member?_of_readMagnitude hvalue name

/-- No text gains or loses a surrogate in a line. -/
theorem hasSurrogate_writeText (t : Text) :
    Text.hasSurrogate (writeText .line t) = Text.hasSurrogate t := by
  have hpoint : ∀ c, Text.hasSurrogate (writePoint .line c) = c.isSurrogate := by
    intro c
    cases c with
    | surrogate i => rfl
    | char c =>
      obtain ⟨cs, hcs, -⟩ := exists_prepends_char c
      rw [hcs, Text.hasSurrogate_ofChars]
      rfl
  have hbody : Text.hasSurrogate (t.flatMap (writePoint .line)) = Text.hasSurrogate t := by
    simp only [Text.hasSurrogate, List.any_flatMap] at hpoint ⊢
    simp only [hpoint]
  have hquote : Text.hasSurrogate [.char '"'] = false := rfl
  calc Text.hasSurrogate (writeText .line t)
      = (Text.hasSurrogate ([.char '"'] ++ t.flatMap (writePoint .line)) ||
          Text.hasSurrogate [.char '"']) := Text.hasSurrogate_append ..
    _ = Text.hasSurrogate t := by
      rw [Text.hasSurrogate_append, hquote, hbody, Bool.false_or, Bool.or_false]

/-- What a table of a line writes of a member has no surrogates if the line has none. -/
theorem hasSurrogate_of_writeMembers {depth : ℕ} {members : List (Text × Value)}
    (h : Text.hasSurrogate (writeMembers .line depth members) = false) :
    ∀ m ∈ members, Text.hasSurrogate (write .line depth m.2) = false := by
  induction members with
  | nil => simp
  | cons m members ih =>
    simp only [writeMembers, Text.hasSurrogate_append, Bool.or_eq_false_iff] at h
    exact List.forall_mem_cons.mpr ⟨h.1.2, ih h.2⟩

theorem hasSurrogate_of_writeLine {members : List (Text × Value)}
    (h : Text.hasSurrogate (writeLine (.table members)) = false) :
    ∀ m ∈ members, Text.hasSurrogate (write .line 1 m.2) = false := by
  cases members with
  | nil => simp
  | cons m members =>
    simp only [writeLine, write, Text.hasSurrogate_append, Bool.or_eq_false_iff] at h
    exact List.forall_mem_cons.mpr ⟨h.1.1.1.2, hasSurrogate_of_writeMembers h.1.1.2⟩

end Json

/-- The line of an entry without fields is a document without stubs. -/
theorem LogEntry.exists_starts_jsonLine {e : LogEntry} (hfields : e.fields = []) (logger : Logger)
    (reading : Log.Reading) (h : Text.hasSurrogate (e.jsonLine logger reading) = false) :
    ∃ cs v, e.jsonLine logger reading = Text.ofChars cs ∧ Command.member? "stubs" v = none ∧
      ∀ rest, Json.Starts (cs ++ '\n' :: rest) v ('\n' :: rest) := by
  have hclean : Json.Clean (.table (e.toFields logger reading)) := by
    have hwritten := Json.hasSurrogate_of_writeLine h
    unfold toFields at hwritten ⊢
    rw [hfields] at hwritten ⊢
    refine Json.clean_fields
      ["timestamp", "level", "logger", "message", "tool_name", "operation"] rfl (by decide) ?_
    simp only [List.isEmpty_nil, if_true, List.forall_mem_cons, Json.write,
      Json.hasSurrogate_writeText] at hwritten ⊢
    obtain ⟨htime, hlevel, hlogger, hmessage, htool, hoperation, -⟩ := hwritten
    exact ⟨.text htime, .text hlevel, .text hlogger, .text hmessage, .text htool,
      .text hoperation, by simp⟩
  obtain ⟨cs, hcs, hstarts⟩ := Json.isSpelled_write (Json.writable_line hclean) 0
  refine ⟨cs, _, hcs, ?_, fun rest => hstarts _ (Json.ends_cons (.inl rfl))⟩
  unfold toFields
  rw [hfields]
  rfl

/-- The first line of a log that is not empty. -/
theorem Logger.exists_first_line {logger : Logger} {json : Bool} {clock : ℕ → Log.Reading}
    (h : logger.file json clock ≠ []) :
    ∃ e ∈ logger.entries, ∃ reading rest,
      let line := if json then e.jsonLine logger reading else e.textLine logger reading
      Text.hasSurrogate line = false ∧
        logger.file json clock = line ++ CodePoint.char '\n' :: rest := by
  unfold file at h ⊢
  dsimp only at h ⊢
  generalize hlines : (logger.entries.zipIdx.map fun e => if json then
    e.1.jsonLine logger (clock e.2) else e.1.textLine logger (clock e.2)) = lines at h ⊢
  cases hkept : lines.filter fun line => !Text.hasSurrogate line with
  | nil =>
    rw [hkept] at h
    exact absurd rfl h
  | cons line rest =>
    have hmem : line ∈ lines.filter fun line => !Text.hasSurrogate line :=
      hkept ▸ List.mem_cons_self ..
    obtain ⟨hline, hclean⟩ := List.mem_filter.mp hmem
    rw [← hlines] at hline
    obtain ⟨e, he, rfl⟩ := List.mem_map.mp hline
    refine ⟨e.1, List.fst_mem_of_mem_zipIdx he, clock e.2,
      rest.flatMap fun line => line ++ [CodePoint.char '\n'], ?_, ?_⟩
    · simpa using hclean
    · rw [List.flatMap_cons, List.append_assoc]
      rfl

/-- Whatever is printed after a log that is not empty, no document with stubs is read. -/
theorem Logger.member?_of_read_file {logger : Logger} (hbare : Bare logger.entries) {json : Bool}
    {clock : ℕ → Log.Reading} (hlog : logger.file json clock ≠ []) {printed : Text}
    {cs : List Char} (houtput : logger.file json clock ++ printed = Text.ofChars cs) {v : Value}
    (hread : Json.read cs = .ok v) : Command.member? "stubs" v = none := by
  obtain ⟨e, he, reading, rest, hclean, hfile⟩ := exists_first_line hlog
  rw [hfile, List.append_assoc, List.cons_append] at houtput
  cases json with
  | false =>
    obtain ⟨d, more, hline, hd⟩ := e.startsWithDigit_textLine logger reading
    simp only [Bool.false_eq_true, if_false, hline, List.cons_append] at houtput
    obtain ⟨c, ds, rfl, hc, -⟩ := List.map_eq_cons_iff.mp houtput.symm
    obtain rfl := CodePoint.char.inj hc
    exact Json.member?_of_read_digit hd hread "stubs"
  | true =>
    obtain ⟨line, found, hline, hstubs, hstarts⟩ :=
      e.exists_starts_jsonLine (hbare e he) logger reading hclean
    simp only [if_true, hline] at houtput
    obtain ⟨first, others, rfl, hfirst, hothers⟩ := List.map_eq_append_iff.mp houtput.symm
    obtain rfl := Text.ofChars_injective hfirst
    obtain ⟨c, ds, rfl, hc, -⟩ := List.map_eq_cons_iff.mp hothers
    obtain rfl := CodePoint.char.inj hc
    rw [Json.eq_of_read_of_starts (hstarts ds) hread]
    exact hstubs

end ImportStubs
