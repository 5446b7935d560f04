import ImportStubs.Proofs.Json.Numerals
import ImportStubs.Proofs.Json.Regular

/-!
# Documents are read as they are written

In every layout the blanks between the parts of a value do not matter. So what is written is read
as the value that was written, if this holds of the texts in it and if there are no numbers with a
fraction. In an indented document it holds of every text that has no surrogate pair left.
-/

namespace ImportStubs.Json

section

variable (layout : Layout) (depth : ℕ)

/-- What a new line starts with: a line feed and the blanks of a depth. -/
def indentation : List Char :=
  match layout.indent with
  | none => []
  | some width => '\n' :: List.replicate (width * depth) ' '

/-- What stands between a comma and the next part. -/
def spacing : List Char :=
  match layout.indent with
  | none => [' ']
  | some width => '\n' :: List.replicate (width * depth) ' '

theorem newline_eq : newline layout depth = Text.ofChars (indentation layout depth) := by
  unfold newline indentation
  cases layout.indent <;> simp [Text.ofChars]

theorem comma_eq : comma layout depth = Text.ofChars (',' :: spacing layout depth) := by
  unfold comma newline spacing
  cases layout.indent <;> simp [Text.ofChars, Text.ofString]

theorem isBlank_lineStart (width : ℕ) :
    ∀ c ∈ '\n' :: List.replicate (width * depth) ' ', isBlank c = true := by
  intro c hc
  rcases List.mem_cons.mp hc with rfl | hc
  · rfl
  · rw [List.eq_of_mem_replicate hc]
    rfl

theorem isBlank_indentation : ∀ c ∈ indentation layout depth, isBlank c = true := by
  unfold indentation
  cases layout.indent with
  | none => simp
  | some width => exact isBlank_lineStart depth width

theorem isBlank_spacing : ∀ c ∈ spacing layout depth, isBlank c = true := by
  unfold spacing
  cases layout.indent with
  | none => simp [isBlank]
  | some width => exact isBlank_lineStart depth width

theorem ends_indentation {c : Char} (hc : c = ']' ∨ c = '\x7d') (cs : List Char) :
    Ends (indentation layout depth ++ c :: cs) := by
  unfold indentation
  cases layout.indent with
  | none => exact ends_cons (.inr (.inr hc))
  | some width => exact ends_cons (.inl rfl)

end

theorem skipBlanks_append {blanks : List Char} (h : ∀ c ∈ blanks, isBlank c = true)
    (cs : List Char) : skipBlanks (blanks ++ cs) = skipBlanks cs :=
  List.dropWhile_append_of_pos h

theorem skipBlanks_append_eq {blanks cs : List Char} (h : ∀ c ∈ blanks, isBlank c = true)
    (hcs : skipBlanks cs = cs) : skipBlanks (blanks ++ cs) = cs :=
  (skipBlanks_append h cs).trans hcs

/-- A value starts with no blank. -/
theorem Starts.skipBlanks_eq {cs rest : List Char} {v : Value} (h : Starts cs v rest) :
    skipBlanks cs = cs := by
  obtain ⟨_, hread⟩ := h
  cases cs with
  | nil => rfl
  | cons c cs =>
    refine List.dropWhile_cons_of_neg fun hblank => ?_
    have hmalformed : readValue (c :: cs) = .error .malformed := by
      simp only [isBlank, Bool.or_eq_true, beq_iff_eq, or_assoc] at hblank
      rcases hblank with rfl | rfl | rfl | rfl <;>
        exact bare_eq_error_iff.mp (bare_readValue_number (by decide))
    rw [hmalformed] at hread
    cases hread

theorem Starts.ne_closed {cs rest after : List Char} {v : Value} (h : Starts cs v rest) :
    cs ≠ ']' :: after := by
  rintro rfl
  obtain ⟨_, hread⟩ := h
  rw [readValue_closed] at hread
  cases hread

/-- The items of a list, up to the closing bracket. -/
def StartsItems (cs : List Char) (items : List Value) (rest : List Char) : Prop :=
  ∃ h, readItems cs = .ok (items, ⟨rest, h⟩)

theorem startsItems_last {cs mid rest : List Char} {v : Value} (hv : Starts cs v mid)
    (hclose : skipBlanks mid = ']' :: rest) : StartsItems cs [v] rest := by
  refine bare_eq_ok_iff.mp ?_
  rw [bare_readItems, bare_eq_ok_iff.mpr hv]
  exact itemsAfter_closed hclose

theorem startsItems_cons {cs mid next rest : List Char} {v : Value} {items : List Value}
    (hv : Starts cs v mid) (hcomma : skipBlanks mid = ',' :: next)
    (hitems : StartsItems (skipBlanks next) items rest) : StartsItems cs (v :: items) rest := by
  refine bare_eq_ok_iff.mp ?_
  rw [bare_readItems, bare_eq_ok_iff.mpr hv]
  change itemsAfter v mid = _
  rw [itemsAfter_comma hcomma, bare_eq_ok_iff.mpr hitems]
  rfl

theorem StartsItems.exists_starts {cs rest : List Char} {items : List Value}
    (h : StartsItems cs items rest) : ∃ v mid, Starts cs v mid := by
  have hread := bare_eq_ok_iff.mpr h
  rw [bare_readItems] at hread
  obtain ⟨⟨v, mid⟩, hv, -⟩ := bind_eq_ok_iff.mp hread
  exact ⟨v, mid, bare_eq_ok_iff.mp hv⟩

theorem starts_list {cs rest : List Char} {items : List Value}
    (h : StartsItems (skipBlanks cs) items rest) : Starts ('[' :: cs) (.list items) rest := by
  obtain ⟨v, mid, hv⟩ := h.exists_starts
  obtain ⟨hlt, hread⟩ := h
  have hblanks := length_skipBlanks_le cs
  refine ⟨by rw [List.length_cons]; omega, ?_⟩
  rw [readValue]
  split
  next hclosed => exact absurd hclosed hv.ne_closed
  · rw [hread]

theorem startsMembers_cons {before members : List (Text × Value)} {cs mid next rest : List Char}
    {name : Text} {v : Value} (h : StartsMember cs name v mid)
    (hcomma : skipBlanks mid = ',' :: next)
    (hmembers : StartsMembers (Value.setMember name v before) (skipBlanks next) members rest) :
    StartsMembers before ('"' :: cs) members rest := by
  refine bare_eq_ok_iff.mp ?_
  rw [bare_readMembers, h.readMember_eq]
  change membersAfter (Value.setMember name v before) mid = _
  rw [membersAfter_comma hcomma]
  exact bare_eq_ok_iff.mpr hmembers

/-- The text is read as the value, whatever follows. -/
def IsSpelled (t : Text) (v : Value) : Prop :=
  ∃ cs, t = Text.ofChars cs ∧ ∀ rest, Ends rest → Starts (cs ++ rest) v rest

theorem ofChars_append (cs ds : List Char) :
    Text.ofChars (cs ++ ds) = Text.ofChars cs ++ Text.ofChars ds := List.map_append

theorem isSpelled_word {cs : List Char} {v : Value} (h : ∀ rest, Starts (cs ++ rest) v rest) :
    IsSpelled (Text.ofChars cs) v := ⟨cs, rfl, fun rest _ => h rest⟩

section

variable {layout : Layout} {depth : ℕ}

/-- A text that is read as it was written. -/
def Legible (layout : Layout) (t : Text) : Prop :=
  ∃ body u, writeText layout t = Text.ofChars ('"' :: body) ∧ joinPairs u = t ∧
    ∀ rest, stringBody (body ++ rest) = some (u, rest)

theorem isSpelled_text {t : Text} (h : Legible layout t) :
    IsSpelled (writeText layout t) (.text t) := by
  obtain ⟨body, u, htext, rfl, hbody⟩ := h
  exact ⟨'"' :: body, htext, fun rest _ => starts_text (hbody rest)⟩

/-- A comma, the blanks after it, and more. -/
theorem comma_append (cs : List Char) :
    comma layout depth ++ Text.ofChars cs =
      Text.ofChars (',' :: (spacing layout depth ++ cs)) := by
  rw [comma_eq, ← ofChars_append, List.cons_append]

/-- The items of a list are read up to the bracket that closes it. -/
theorem exists_startsItems {v : Value} {items : List Value}
    (hv : IsSpelled (write layout depth v) v)
    (hitems : ∀ w ∈ items, IsSpelled (write layout depth w) w) :
    ∃ cs, write layout depth v ++ writeItems layout depth items = Text.ofChars cs ∧
      ∀ mid rest, Ends mid → skipBlanks mid = ']' :: rest →
        StartsItems (cs ++ mid) (v :: items) rest := by
  obtain ⟨cs, hcs, hstarts⟩ := hv
  induction items generalizing v cs with
  | nil =>
    refine ⟨cs, by rw [writeItems, hcs, List.append_nil], fun mid rest hmid hclose => ?_⟩
    exact startsItems_last (hstarts mid hmid) hclose
  | cons w items ih =>
    obtain ⟨⟨ds, hds, hwstarts⟩, hrest⟩ := List.forall_mem_cons.mp hitems
    obtain ⟨later, hlater, hread⟩ := ih hrest ds hds hwstarts
    refine ⟨cs ++ ',' :: (spacing layout depth ++ later), ?_, fun mid rest hmid hclose => ?_⟩
    · rw [writeItems, List.append_assoc, hlater, comma_append, hcs, ← ofChars_append]
    · have hfirst := hstarts (',' :: (spacing layout depth ++ (later ++ mid))) (ends_cons (by simp))
      have hitems := hread mid rest hmid hclose
      obtain ⟨_, _, hnext⟩ := hitems.exists_starts
      rw [← skipBlanks_append_eq (isBlank_spacing layout depth) hnext.skipBlanks_eq] at hitems
      have hall := startsItems_cons hfirst rfl hitems
      simpa only [List.append_assoc, List.cons_append] using hall

/-- The name and the value of a member are read as such, whatever follows. -/
def IsSpelledMember (layout : Layout) (depth : ℕ) (m : Text × Value) : Prop :=
  ∃ cs, writeText layout m.1 ++ ": " ++ write layout depth m.2 = Text.ofChars ('"' :: cs) ∧
    ∀ rest, Ends rest → StartsMember (cs ++ rest) m.1 m.2 rest

theorem isSpelledMember {m : Text × Value} (hname : Legible layout m.1)
    (hvalue : IsSpelled (write layout depth m.2) m.2) : IsSpelledMember layout depth m := by
  obtain ⟨body, t, hbody, ht, hstring⟩ := hname
  obtain ⟨cs, hcs, hstarts⟩ := hvalue
  refine ⟨body ++ ':' :: ' ' :: cs, ?_, fun rest hrest => ?_⟩
  · rw [hcs, hbody]
    simp [Text.ofChars, Text.ofString]
  · have hstart := hstarts rest hrest
    rw [← hstart.skipBlanks_eq] at hstart
    rw [List.append_assoc]
    exact ⟨t, _, ' ' :: (cs ++ rest), hstring _, ht, rfl, hstart⟩

/-- The members of a table are read up to the brace that closes it. -/
theorem exists_startsMembers {m : Text × Value} {members : List (Text × Value)}
    (hm : IsSpelledMember layout depth m)
    (hmembers : ∀ m ∈ members, IsSpelledMember layout depth m) :
    ∃ cs, writeText layout m.1 ++ ": " ++ write layout depth m.2 ++
        writeMembers layout depth members = Text.ofChars ('"' :: cs) ∧
      ∀ before mid rest, Ends mid → skipBlanks mid = '\x7d' :: rest →
        ((before ++ m :: members).map Prod.fst).Nodup →
        StartsMembers before ('"' :: (cs ++ mid)) (before ++ m :: members) rest := by
  obtain ⟨cs, hcs, hstarts⟩ := hm
  induction members generalizing m cs with
  | nil =>
    refine ⟨cs, by rw [writeMembers, hcs, List.append_nil], ?_⟩
    intro before mid rest hmid hclose hnames
    rw [← Value.setMember_of_nodup hnames]
    exact startsMembers_last (hstarts mid hmid) hclose
  | cons next members ih =>
    obtain ⟨⟨ds, hds, hnext⟩, hrest⟩ := List.forall_mem_cons.mp hmembers
    obtain ⟨later, hlater, hread⟩ := ih hrest ds hds hnext
    refine ⟨cs ++ ',' :: (spacing layout depth ++ '"' :: later), ?_, ?_⟩
    · rw [← List.cons_append, ofChars_append, ← comma_append, ← hlater, ← hcs, writeMembers]
      simp only [List.append_assoc]
    · intro before mid rest hmid hclose hnames
      have hfirst := hstarts (',' :: (spacing layout depth ++ '"' :: (later ++ mid)))
        (ends_cons (by simp))
      have hmembers := hread (before ++ [m]) mid rest hmid hclose (by simpa using hnames)
      rw [← Value.setMember_of_nodup hnames] at hmembers
      have hquote : skipBlanks ('"' :: (later ++ mid)) = '"' :: (later ++ mid) := rfl
      rw [← skipBlanks_append_eq (isBlank_spacing layout depth) hquote] at hmembers
      have hall := startsMembers_cons hfirst rfl hmembers
      rw [Value.setMember_of_nodup hnames] at hall
      simpa only [List.append_assoc, List.cons_append, List.nil_append] using hall

theorem isSpelled_list {v : Value} {items : List Value}
    (hv : IsSpelled (write layout (depth + 1) v) v)
    (hitems : ∀ w ∈ items, IsSpelled (write layout (depth + 1) w) w) :
    IsSpelled (write layout depth (.list (v :: items))) (.list (v :: items)) := by
  obtain ⟨cs, hcs, hread⟩ := exists_startsItems hv hitems
  refine ⟨'[' :: (indentation layout (depth + 1) ++ cs ++ indentation layout depth ++ [']']),
    ?_, ?_⟩
  · rw [write, newline_eq, newline_eq, List.append_assoc _ (write ..), hcs]
    simp [Text.ofChars, Text.ofString]
  · intro rest _
    have hitems := hread (indentation layout depth ++ ']' :: rest) rest
      (ends_indentation layout depth (.inl rfl) rest)
      (skipBlanks_append (isBlank_indentation layout depth) _)
    obtain ⟨_, _, hfirst⟩ := hitems.exists_starts
    have hblanks := isBlank_indentation layout (depth + 1)
    rw [← skipBlanks_append_eq hblanks hfirst.skipBlanks_eq] at hitems
    simpa only [List.append_assoc, List.cons_append, List.nil_append] using starts_list hitems

theorem isSpelled_table {m : Text × Value} {members : List (Text × Value)}
    (hnames : ((m :: members).map Prod.fst).Nodup) (hm : IsSpelledMember layout (depth + 1) m)
    (hmembers : ∀ m ∈ members, IsSpelledMember layout (depth + 1) m) :
    IsSpelled (write layout depth (.table (m :: members))) (.table (m :: members)) := by
  obtain ⟨cs, hcs, hread⟩ := exists_startsMembers hm hmembers
  refine ⟨'\x7b' :: (indentation layout (depth + 1) ++ '"' :: cs ++ indentation layout depth ++
    ['\x7d']), ?_, ?_⟩
  · have hcontent := congrArg
      (fun t => "\x7b" ++ newline layout (depth + 1) ++ t ++ newline layout depth ++ "\x7d")
      hcs
    simp only [newline_eq, ← List.append_assoc] at hcontent
    rw [write, newline_eq, newline_eq, hcontent]
    simp [Text.ofChars, Text.ofString]
  · intro rest _
    have hmembers := hread [] (indentation layout depth ++ '\x7d' :: rest) rest
      (ends_indentation layout depth (.inr rfl) rest)
      (skipBlanks_append (isBlank_indentation layout depth) _) hnames
    have hquote : skipBlanks ('"' :: (cs ++ (indentation layout depth ++ '\x7d' :: rest))) =
        '"' :: (cs ++ (indentation layout depth ++ '\x7d' :: rest)) := rfl
    rw [← skipBlanks_append_eq (isBlank_indentation layout (depth + 1)) hquote] at hmembers
    simpa only [List.append_assoc, List.cons_append, List.nil_append] using starts_table hmembers

theorem starts_true (rest : List Char) :
    Starts ('t' :: 'r' :: 'u' :: 'e' :: rest) (.bool true) rest :=
  ⟨by simp only [List.length_cons]; omega, by rw [readValue]⟩

theorem starts_false (rest : List Char) :
    Starts ('f' :: 'a' :: 'l' :: 's' :: 'e' :: rest) (.bool false) rest :=
  ⟨by simp only [List.length_cons]; omega, by rw [readValue]⟩

theorem starts_null (rest : List Char) : Starts ('n' :: 'u' :: 'l' :: 'l' :: rest) .null rest :=
  ⟨by simp only [List.length_cons]; omega, by rw [readValue]⟩

theorem starts_emptyList (rest : List Char) : Starts ('[' :: ']' :: rest) (.list []) rest := by
  refine ⟨by simp only [List.length_cons]; omega, ?_⟩
  have hclosed : skipBlanks (']' :: rest) = ']' :: rest := rfl
  rw [readValue]
  split
  next h =>
    cases hclosed.symm.trans h
    rfl
  next h => exact absurd hclosed (h _)

theorem starts_emptyTable (rest : List Char) :
    Starts ('\x7b' :: '\x7d' :: rest) (.table []) rest := by
  refine ⟨by simp only [List.length_cons]; omega, ?_⟩
  have hclosed : skipBlanks ('\x7d' :: rest) = '\x7d' :: rest := rfl
  rw [readValue]
  split
  next h =>
    cases hclosed.symm.trans h
    rfl
  next h => exact absurd hclosed (h _)

/-- Values that can be read as they are written: the texts in them can, and there are no numbers
with a fraction. -/
inductive Writable (layout : Layout) : Value → Prop
  | null : Writable layout .null
  | bool (b : Bool) : Writable layout (.bool b)
  | int {n : Int} : (Value.int n).isShowable → Writable layout (.int n)
  | text {t : Text} : Legible layout t → Writable layout (.text t)
  | list {items : List Value} : (∀ v ∈ items, Writable layout v) → Writable layout (.list items)
  | table {members : List (Text × Value)} : (members.map Prod.fst).Nodup →
      (∀ m ∈ members, Legible layout m.1) → (∀ m ∈ members, Writable layout m.2) →
      Writable layout (.table members)

/-- A writable value is spelled at every depth. -/
theorem isSpelled_write {v : Value} (h : Writable layout v) (depth : ℕ) :
    IsSpelled (write layout depth v) v := by
  induction h generalizing depth with
  | null => exact isSpelled_word starts_null
  | bool b =>
    cases b with
    | true => exact isSpelled_word starts_true
    | false => exact isSpelled_word starts_false
  | int hshown => exact exists_starts_int hshown
  | text hlegible => exact isSpelled_text hlegible
  | @list items _ ih =>
    cases items with
    | nil => exact isSpelled_word starts_emptyList
    | cons v items =>
      obtain ⟨hv, hitems⟩ := List.forall_mem_cons.mp ih
      exact isSpelled_list (hv (depth + 1)) fun w hw => hitems w hw (depth + 1)
  | @table members hnames hlegible _ ih =>
    cases members with
    | nil => exact isSpelled_word starts_emptyTable
    | cons m members =>
      have hspelled : ∀ n ∈ m :: members, IsSpelledMember layout (depth + 1) n :=
        fun n hn => isSpelledMember (hlegible n hn) (ih n hn (depth + 1))
      obtain ⟨hm, hmembers⟩ := List.forall_mem_cons.mp hspelled
      exact isSpelled_table hnames hm hmembers

end

theorem legible_document {t : Text} (h : joinPairs t = t) : Legible .document t := by
  obtain ⟨body, u, htext, hu, hbody⟩ := exists_body t
  exact ⟨body, u, htext, hu.trans h, hbody⟩

theorem writable_document {v : Value} (h : Regular False v) : Writable .document v := by
  induction h with
  | null => exact .null
  | bool b => exact .bool b
  | int hshown => exact .int hshown
  | float _ hallowed => exact hallowed.elim
  | text hjoined => exact .text (legible_document hjoined)
  | list _ ih => exact .list ih
  | table hnames hjoined _ ih =>
    exact .table hnames (fun m hm => legible_document (hjoined m hm)) ih

/-- A document of a regular value is in ASCII, and it is read as this value. -/
theorem read_writeDocument {v : Value} (h : Regular False v) :
    ∃ cs, writeDocument v ++ "\n" = Text.ofChars cs ∧ read cs = .ok v := by
  obtain ⟨cs, hcs, hstarts⟩ := isSpelled_write (writable_document h) 0
  refine ⟨cs ++ ['\n'], ?_, ?_⟩
  · rw [writeDocument, hcs, ofChars_append]
    rfl
  · have hread := hstarts ['\n'] (ends_cons (.inl rfl))
    rw [← hread.skipBlanks_eq] at hread
    obtain ⟨_, hvalue⟩ := hread
    rw [read, hvalue]
    rfl

/-- An empty text is no document. -/
theorem read_nil : read [] = .error .malformed := by
  have hnothing : readValue [] = .error .malformed := by
    rw [readValue]
    · rfl
    all_goals simp
  unfold read
  split
  · next h =>
    cases hnothing.symm.trans h
    rfl
  · next h => cases hnothing.symm.trans h

end ImportStubs.Json
