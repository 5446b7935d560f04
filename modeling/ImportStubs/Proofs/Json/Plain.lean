import ImportStubs.Proofs.Json.Readers

/-!
# Plain texts in a JSON document

A text without escapes stands in a document as it is, between quotation marks. A table with one
member is read from the name and whatever is read for the value.
-/

namespace ImportStubs.Json

/-- A character that stands for itself inside quotation marks. -/
def IsPlain (c : Char) : Prop := 0x20 ≤ c.toNat ∧ c ≠ '"' ∧ c ≠ '\\'

theorem stringBody_cons {c : Char} (h : IsPlain c) (rest : List Char) :
    stringBody (c :: rest) = (stringBody rest).map fun found => (.char c :: found.1, found.2) := by
  obtain ⟨hcontrol, hquote, hescape⟩ := h
  have hcode : ¬ (c.toNat < 0x20 ∨ c = '\\') := by
    rintro (h | h)
    · omega
    · exact hescape h
  rw [stringBody.eq_def]
  split
  · cases ‹_›
  next h => exact absurd (List.cons.inj h).1 hquote
  next h => exact absurd (List.cons.inj h).1 hescape
  next h => exact absurd (List.cons.inj h).1 hescape
  next h =>
    obtain ⟨rfl, rfl⟩ := List.cons.inj h
    rw [if_neg hcode]

theorem stringBody_plain {cs : List Char} (hplain : ∀ c ∈ cs, IsPlain c) (rest : List Char) :
    stringBody (cs ++ '"' :: rest) = some (Text.ofChars cs, rest) := by
  induction cs with
  | nil => simp [stringBody, Text.ofChars]
  | cons c cs ih =>
    obtain ⟨hc, hplain⟩ := List.forall_mem_cons.mp hplain
    rw [List.cons_append, stringBody_cons hc, ih hplain]
    rfl

theorem joinPairs_ofChars (cs : List Char) : joinPairs (Text.ofChars cs) = Text.ofChars cs := by
  induction cs with
  | nil => rfl
  | cons c cs ih =>
    rw [Text.ofChars, List.map_cons, joinPairs]
    · exact congrArg _ ih
    · simp

/-- A value stands at the start of a text, and this is what follows it. -/
def Starts (cs : List Char) (v : Value) (rest : List Char) : Prop :=
  ∃ h, readValue cs = .ok (v, ⟨rest, h⟩)

theorem starts_text {tail rest : List Char} {t : Text} (h : stringBody tail = some (t, rest)) :
    Starts ('"' :: tail) (.text (joinPairs t)) rest := by
  refine ⟨Nat.lt_succ_of_lt (length_stringBody_lt h), ?_⟩
  rw [readValue]
  split
  next h' =>
    cases h.symm.trans h'
    rfl
  next h' => cases h.symm.trans h'

theorem starts_plain {cs : List Char} (hplain : ∀ c ∈ cs, IsPlain c) (rest : List Char) :
    Starts ('"' :: (cs ++ '"' :: rest)) (.text (Text.ofChars cs)) rest := by
  rw [← joinPairs_ofChars]
  exact starts_text (stringBody_plain hplain rest)

/-- The members of a table that are read after some others, up to the closing brace. -/
def StartsMembers (before : List (Text × Value)) (cs : List Char) (members : List (Text × Value))
    (rest : List Char) : Prop :=
  ∃ h, readMembers before cs = .ok (members, ⟨rest, h⟩)

/-- The first member, from behind the quotation mark. -/
def StartsMember (cs : List Char) (name : Text) (v : Value) (rest : List Char) : Prop :=
  ∃ t afterName afterColon, stringBody cs = some (t, afterName) ∧ joinPairs t = name ∧
    skipBlanks afterName = ':' :: afterColon ∧ Starts (skipBlanks afterColon) v rest

theorem StartsMember.readMember_eq {cs rest : List Char} {name : Text} {v : Value}
    (h : StartsMember cs name v rest) : readMember cs = .ok ((name, v), rest) := by
  obtain ⟨t, afterName, afterColon, hname, hjoined, hcolon, hvalue⟩ := h
  exact readMember_eq_ok_iff.mpr
    ⟨t, afterName, afterColon, hname, hjoined, hcolon, bare_eq_ok_iff.mpr hvalue⟩

theorem startsMembers_last {before : List (Text × Value)} {cs mid rest : List Char} {name : Text}
    {v : Value} (h : StartsMember cs name v mid) (hclose : skipBlanks mid = '\x7d' :: rest) :
    StartsMembers before ('"' :: cs) (Value.setMember name v before) rest := by
  refine bare_eq_ok_iff.mp ?_
  rw [bare_readMembers, h.readMember_eq]
  exact membersAfter_closed hclose

theorem starts_table {cs rest : List Char} {members : List (Text × Value)}
    (h : StartsMembers [] (skipBlanks cs) members rest) :
    Starts ('\x7b' :: cs) (.table members) rest := by
  obtain ⟨hlt, hread⟩ := h
  obtain ⟨body, hbody⟩ := exists_cons_of_readMembers (hread.trans_ne (by simp))
  have hblanks := length_skipBlanks_le cs
  refine ⟨by rw [List.length_cons]; omega, ?_⟩
  rw [readValue]
  split
  next hclosed => cases hbody.symm.trans hclosed
  · rw [hread]

theorem starts_single {name value rest : List Char} {v : Value} (hname : ∀ c ∈ name, IsPlain c)
    (hblanks : skipBlanks value = value) (hvalue : Starts value v ('\x7d' :: rest)) :
    Starts ('\x7b' :: '"' :: (name ++ '"' :: ':' :: value)) (.table [(Text.ofChars name, v)])
      rest := by
  have hmember : StartsMember (name ++ '"' :: ':' :: value) (Text.ofChars name) v
      ('\x7d' :: rest) :=
    ⟨_, _, value, stringBody_plain hname _, joinPairs_ofChars name, rfl, hblanks.symm ▸ hvalue⟩
  exact starts_table (startsMembers_last hmember rfl)

/-- A value with nothing after it is a document. -/
theorem read_of_starts {cs : List Char} {v : Value} (hblanks : skipBlanks cs = cs)
    (h : Starts cs v []) : read cs = .ok v := by
  rw [← hblanks] at h
  obtain ⟨hlt, hread⟩ := h
  rw [read, hread]
  rfl

end ImportStubs.Json
