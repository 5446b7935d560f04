import ImportStubs.Proofs.Console.Styles
import ImportStubs.Proofs.Json.RoundTrip
import ImportStubs.Proofs.Text.Surrogates

/-!
# Lines of JSON

A value without lone surrogates is written as one line: a line feed in a text is escaped, and there
is none between the parts. The line is read as the value, so it tells all of it and nothing else.
-/

namespace ImportStubs.Json

/-- Values that a line can hold: no text has a lone surrogate, names are distinct, integers can be
shown, and there are neither numbers with a fraction nor moments. -/
inductive Clean : Value → Prop
  | null : Clean .null
  | bool (b : Bool) : Clean (.bool b)
  | int {n : Int} : (Value.int n).isShowable → Clean (.int n)
  | text {t : Text} : t.hasSurrogate = false → Clean (.text t)
  | list {items : List Value} : (∀ v ∈ items, Clean v) → Clean (.list items)
  | table {members : List (Text × Value)} : (members.map Prod.fst).Nodup →
      (∀ m ∈ members, m.1.hasSurrogate = false) → (∀ m ∈ members, Clean m.2) →
      Clean (.table members)

/-- A table whose names are given by literals. -/
theorem clean_fields {members : List (Text × Value)} (names : List String)
    (hnames : members.map Prod.fst = names.map Text.ofString) (hnodup : names.Nodup)
    (hvalues : ∀ m ∈ members, Clean m.2) : Clean (.table members) := by
  refine .table ?_ ?_ hvalues
  · rw [hnames]
    exact hnodup.map Text.ofString_injective
  · intro m hm
    have hmem : m.1 ∈ names.map Text.ofString := hnames ▸ List.mem_map_of_mem hm
    obtain ⟨name, -, hname⟩ := List.mem_map.mp hmem
    rw [← hname]
    exact Text.hasSurrogate_ofString name

/-- A character stands in a line in characters that are read as itself. -/
theorem exists_prepends_char (c : Char) :
    ∃ cs, writePoint .line (.char c) = Text.ofChars cs ∧ Prepends cs [.char c] := by
  rw [writePoint]
  cases hshort : shortEscape? c with
  | some e => exact ⟨_, rfl, prepends_shortEscape hshort⟩
  | none =>
    dsimp only
    split_ifs with hescaped
    · have hcontrol : c.toNat < 0x20 := by simpa [Layout.line] using hescaped
      have hhalves : halves (.char c) = [.char c] := if_pos (by omega)
      exact ⟨_, rfl, hhalves ▸ prepends_escapeNumber c⟩
    · have hrange : 0x20 ≤ c.toNat := by simpa [Layout.line] using hescaped
      exact ⟨[c], rfl, prepends_plain (isPlain_of_shortEscape hshort hrange)⟩

theorem exists_prepends_ofChars (cs : List Char) :
    ∃ ds, (Text.ofChars cs).flatMap (writePoint .line) = Text.ofChars ds ∧
      Prepends ds (Text.ofChars cs) := by
  induction cs with
  | nil => exact ⟨[], rfl, prepends_nil⟩
  | cons c cs ih =>
    obtain ⟨first, hfirst, hc⟩ := exists_prepends_char c
    obtain ⟨rest, hrest, hcs⟩ := ih
    refine ⟨first ++ rest, ?_, hc.append hcs⟩
    rw [ofChars_append, ← hfirst, ← hrest]
    rfl

theorem legible_line {t : Text} (h : t.hasSurrogate = false) : Legible .line t := by
  obtain ⟨cs, rfl⟩ := Text.isDecoded_iff.mpr h
  obtain ⟨ds, hds, hprepends⟩ := exists_prepends_ofChars cs
  refine ⟨ds ++ ['"'], Text.ofChars cs, ?_, joinPairs_ofChars cs, ?_⟩
  · rw [writeText, hds]
    simp [Text.ofChars]
  · intro rest
    rw [List.append_assoc, hprepends, List.cons_append, List.nil_append, stringBody]
    simp

theorem writable_line {v : Value} (h : Clean v) : Writable .line v := by
  induction h with
  | null => exact .null
  | bool b => exact .bool b
  | int hshown => exact .int hshown
  | text htext => exact .text (legible_line htext)
  | list _ ih => exact .list ih
  | table hnames htexts _ ih => exact .table hnames (fun m hm => legible_line (htexts m hm)) ih

/-- There is no line feed in the text. -/
def OneLine (t : Text) : Prop := CodePoint.char '\n' ∉ t

@[simp] theorem oneLine_append {t u : Text} : OneLine (t ++ u) ↔ OneLine t ∧ OneLine u := by
  simp [OneLine]

theorem oneLine_ofChars {cs : List Char} (h : '\n' ∉ cs) : OneLine (Text.ofChars cs) := by
  intro hmem
  obtain ⟨c, hc, heq⟩ := List.mem_map.mp hmem
  cases heq
  exact h hc

theorem hexDigit_ne {d : ℕ} (h : d < 16) : Text.Quoted.hexDigit d ≠ '\n' := by
  interval_cases d <;> decide

theorem lineFeed_notMem_escapeUnit (n : ℕ) : '\n' ∉ escapeUnit n := by
  have hdigit : ∀ m : ℕ, '\n' ≠ Text.Quoted.hexDigit (m % 16) := fun m =>
    (hexDigit_ne (Nat.mod_lt m (by decide))).symm
  simp [escapeUnit, hexDigits_four, hdigit]

theorem oneLine_writePoint (layout : Layout) (c : CodePoint) : OneLine (writePoint layout c) := by
  cases c with
  | surrogate i =>
    rw [writePoint]
    split_ifs
    · exact oneLine_ofChars (lineFeed_notMem_escapeUnit _)
    · simp [OneLine]
  | char c =>
    rw [writePoint]
    cases hshort : shortEscape? c with
    | some e =>
      apply oneLine_ofChars
      unfold shortEscape? at hshort
      split_ifs at hshort with _ _ _ _ _ hquote <;> cases hshort
      all_goals first | decide | rcases hquote with rfl | rfl <;> decide
    | none =>
      dsimp only
      split_ifs
      · apply oneLine_ofChars
        unfold escapeNumber
        split_ifs
        · exact lineFeed_notMem_escapeUnit _
        · simp [lineFeed_notMem_escapeUnit]
      · rintro hmem
        cases List.mem_singleton.mp hmem
        cases hshort

theorem oneLine_writeText (layout : Layout) (t : Text) : OneLine (writeText layout t) := by
  have hbody : OneLine (t.flatMap (writePoint layout)) := by
    intro hmem
    obtain ⟨c, -, hc⟩ := List.mem_flatMap.mp hmem
    exact oneLine_writePoint layout c hc
  have hquote : OneLine [.char '"'] := by simp [OneLine]
  exact oneLine_append.mpr ⟨oneLine_append.mpr ⟨hquote, hbody⟩, hquote⟩

theorem oneLine_ofInt (n : Int) : OneLine (Text.ofInt n) := by
  have hdigits : ∀ n : ℕ, '\n' ∉ Nat.toDigits 10 n := by
    intro n hmem
    cases isDigit_toDigits n _ hmem
  cases n with
  | ofNat n => exact oneLine_ofChars (hdigits n)
  | negSucc n =>
    have hsigned : '\n' ∉ '-' :: Nat.toDigits 10 (n + 1) := by simp [hdigits]
    exact oneLine_ofChars hsigned

/-- The marks of lists and tables, and the words. -/
theorem oneLine_ofString {s : String} (h : '\n' ∉ s.toList) : OneLine (Text.ofString s) :=
  oneLine_ofChars h

theorem oneLine_newline (depth : ℕ) : OneLine (newline .line depth) := by
  simp [newline, Layout.line, OneLine]

section

variable {depth : ℕ}

theorem oneLine_writeItems {items : List Value}
    (h : ∀ v ∈ items, OneLine (write .line depth v)) : OneLine (writeItems .line depth items) := by
  induction items with
  | nil => simp [writeItems, OneLine]
  | cons v items ih =>
    obtain ⟨hv, hitems⟩ := List.forall_mem_cons.mp h
    have hcomma : OneLine (comma .line depth) := oneLine_ofString (s := ", ") (by decide)
    simp only [writeItems, oneLine_append]
    exact ⟨⟨hcomma, hv⟩, ih hitems⟩

theorem oneLine_writeMembers {members : List (Text × Value)}
    (h : ∀ m ∈ members, OneLine (write .line depth m.2)) :
    OneLine (writeMembers .line depth members) := by
  induction members with
  | nil => simp [writeMembers, OneLine]
  | cons m members ih =>
    obtain ⟨hm, hmembers⟩ := List.forall_mem_cons.mp h
    have hcomma : OneLine (comma .line depth) := oneLine_ofString (s := ", ") (by decide)
    have hcolon : OneLine (Text.ofString ": ") := oneLine_ofString (by decide)
    simp only [writeMembers, oneLine_append]
    exact ⟨⟨⟨⟨hcomma, oneLine_writeText _ _⟩, hcolon⟩, hm⟩, ih hmembers⟩

end

theorem oneLine_write {v : Value} (h : Clean v) (depth : ℕ) : OneLine (write .line depth v) := by
  induction h generalizing depth with
  | null => exact oneLine_ofString (by decide)
  | bool b => cases b <;> exact oneLine_ofString (by decide)
  | int _ => exact oneLine_ofInt _
  | text _ => exact oneLine_writeText _ _
  | @list items _ ih =>
    cases items with
    | nil => exact oneLine_ofString (by decide)
    | cons v items =>
      obtain ⟨hv, hitems⟩ := List.forall_mem_cons.mp ih
      have hopen : OneLine (Text.ofString "[") := oneLine_ofString (by decide)
      have hclose : OneLine (Text.ofString "]") := oneLine_ofString (by decide)
      simp only [write, oneLine_append]
      exact ⟨⟨⟨⟨⟨hopen, oneLine_newline _⟩, hv _⟩,
        oneLine_writeItems fun w hw => hitems w hw _⟩, oneLine_newline _⟩, hclose⟩
  | @table members _ _ _ ih =>
    cases members with
    | nil => exact oneLine_ofString (by decide)
    | cons m members =>
      obtain ⟨hm, hmembers⟩ := List.forall_mem_cons.mp ih
      have hopen : OneLine (Text.ofString "\x7b") := oneLine_ofString (by decide)
      have hcolon : OneLine (Text.ofString ": ") := oneLine_ofString (by decide)
      have hclose : OneLine (Text.ofString "\x7d") := oneLine_ofString (by decide)
      simp only [write, oneLine_append]
      exact ⟨⟨⟨⟨⟨⟨⟨hopen, oneLine_newline _⟩, oneLine_writeText _ _⟩, hcolon⟩, hm _⟩,
        oneLine_writeMembers fun n hn => hmembers n hn _⟩, oneLine_newline _⟩, hclose⟩

/-- A clean value is written in one line, which is read as this value. -/
theorem read_writeLine {v : Value} (h : Clean v) :
    ∃ cs, writeLine v = Text.ofChars cs ∧ '\n' ∉ cs ∧ read cs = .ok v := by
  obtain ⟨cs, hcs, hstarts⟩ := isSpelled_write (writable_line h) 0
  refine ⟨cs, hcs, ?_, ?_⟩
  · intro hmem
    apply oneLine_write h 0
    rw [hcs]
    exact List.mem_map_of_mem hmem
  · have hread := hstarts [] ends_nil
    rw [List.append_nil] at hread
    exact read_of_starts hread.skipBlanks_eq hread

end ImportStubs.Json
