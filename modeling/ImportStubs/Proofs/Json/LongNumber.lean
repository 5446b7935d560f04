import ImportStubs.Proofs.Json.Readers
import Mathlib.Data.List.TakeWhile

/-!
# Integers that are too long

A document is refused for the length of an integer exactly if the reading comes to that integer:
everything before it is read, and what stands after it is never looked at. Each reader hands the
failure on from a part, which is read in full up to there.
-/

namespace ImportStubs.Json

/-- An integer with more digits than are read. Neither a fraction nor an exponent follows. -/
inductive StartsLong : List Char → Prop
  | intro {sign whole after : List Char} : sign = [] ∨ sign = ['-'] →
      (∀ c ∈ whole, isDigit c = true) → whole.head? ≠ some '0' →
      Numeral.decimalLimit < whole.length → (∀ c ∈ after.head?, isDigit c = false) →
      (fractionPart after).1 = [] → (exponentPart after).1 = none →
      StartsLong (sign ++ (whole ++ after))

theorem fractionPart_snd {cs : List Char} (h : (fractionPart cs).1 = []) :
    (fractionPart cs).2 = cs := by
  unfold fractionPart at h ⊢
  split
  · next rest =>
    rcases hrun : digitRun rest with ⟨_ | ⟨d, ds⟩, after⟩
    · rfl
    · simp [hrun] at h
  · rfl

/-- Digits up to a character that is none. -/
theorem digitRun_append {whole after : List Char} (hwhole : ∀ c ∈ whole, isDigit c = true)
    (hafter : ∀ c ∈ after.head?, isDigit c = false) :
    digitRun (whole ++ after) = (whole, after) := by
  have htake : after.takeWhile isDigit = [] := by
    cases after with
    | nil => rfl
    | cons c after => rw [List.takeWhile_cons_of_neg (by simp [hafter c rfl])]
  have hdrop : after.dropWhile isDigit = after := by
    cases after with
    | nil => rfl
    | cons c after => rw [List.dropWhile_cons_of_neg (by simp [hafter c rfl])]
  rw [digitRun, List.takeWhile_append_of_pos hwhole, List.dropWhile_append_of_pos hwhole, htake,
    hdrop, List.append_nil]

theorem head?_dropWhile_isDigit (cs : List Char) :
    ∀ c ∈ (cs.dropWhile isDigit).head?, isDigit c = false := by
  intro c hc
  have hhead := List.head?_dropWhile_not isDigit cs
  rw [Option.mem_def.mp hc] at hhead
  simpa using hhead

/-- Digits that do not start with a zero are read as a whole. -/
theorem integerPart_append {whole after : List Char} (hne : whole ≠ [])
    (hdigits : ∀ c ∈ whole, isDigit c = true) (hzero : whole.head? ≠ some '0')
    (hafter : ∀ c ∈ after.head?, isDigit c = false) :
    integerPart (whole ++ after) = some (whole, after) := by
  cases whole with
  | nil => exact absurd rfl hne
  | cons c whole =>
    have hc := hdigits c (List.mem_cons_self ..)
    have hrun := digitRun_append hdigits hafter
    rw [List.cons_append] at hrun ⊢
    unfold integerPart
    split
    · next heq => exact absurd (congrArg some (List.cons.inj heq).1) hzero
    · next heq =>
      obtain ⟨rfl, rfl⟩ := List.cons.inj heq
      rw [if_pos hc, hrun]
    · next heq => cases heq

/-- More than one digit is read as a whole if it does not start with a zero. -/
theorem integerPart_eq_some_iff {cs whole after : List Char}
    (hlong : Numeral.decimalLimit < whole.length) :
    integerPart cs = some (whole, after) ↔
      cs = whole ++ after ∧ (∀ c ∈ whole, isDigit c = true) ∧ whole.head? ≠ some '0' ∧
        ∀ c ∈ after.head?, isDigit c = false := by
  constructor
  · intro h
    unfold integerPart at h
    split at h
    · cases h
      exact absurd hlong (by decide)
    · next c rest hzero =>
      split_ifs at h with hc
      obtain ⟨rfl, rfl⟩ := Prod.mk.inj (Option.some.inj h)
      refine ⟨List.takeWhile_append_dropWhile.symm, fun d hd => List.mem_takeWhile_imp hd, ?_,
        head?_dropWhile_isDigit _⟩
      rw [List.takeWhile_cons_of_pos hc]
      rintro ⟨⟩
      exact hzero rfl
    · cases h
  · rintro ⟨rfl, hdigits, hzero, hafter⟩
    refine integerPart_append ?_ hdigits hzero hafter
    rintro rfl
    exact Nat.not_lt_zero _ hlong

theorem readMagnitude_eq_longNumber_iff {negative : Bool} {cs : List Char} :
    readMagnitude negative cs = .error .longNumber ↔
      ∃ whole after, integerPart cs = some (whole, after) ∧
        Numeral.decimalLimit < whole.length ∧ (fractionPart after).1 = [] ∧
        (exponentPart after).1 = none := by
  unfold readMagnitude
  rcases hpart : integerPart cs with _ | ⟨whole, after⟩
  · simp
  dsimp only
  constructor
  · intro h
    split_ifs at h with hinteger hshort
    have hfraction : (fractionPart after).1 = [] := List.isEmpty_iff.mp hinteger.1
    refine ⟨whole, after, rfl, Nat.lt_of_not_le hshort, hfraction, ?_⟩
    rw [← fractionPart_snd hfraction]
    exact Option.isNone_iff_eq_none.mp hinteger.2
  · rintro ⟨whole', after', heq, hlong, hfraction, hexponent⟩
    obtain ⟨rfl, rfl⟩ := Prod.mk.inj (Option.some.inj heq)
    rw [fractionPart_snd hfraction, hfraction, hexponent]
    exact (if_pos ⟨rfl, rfl⟩).trans (if_neg (Nat.not_le_of_lt hlong))

theorem readNumber_digit {c : Char} (h : isDigit c = true) (rest : List Char) :
    readNumber (c :: rest) = readMagnitude false (c :: rest) := by
  have hminus : c ≠ '-' := by
    rintro rfl
    cases h
  unfold readNumber
  split
  · next heq => exact absurd (List.cons.inj heq).1 hminus
  · next heq => exact absurd (List.cons.inj heq).1 hminus
  · rfl

theorem readNumber_minus {c : Char} (h : isDigit c = true) (rest : List Char) :
    readNumber ('-' :: c :: rest) = readMagnitude true (c :: rest) := by
  have hinfinity : c ≠ 'I' := by
    rintro rfl
    cases h
  unfold readNumber
  split
  · next heq => exact absurd (List.cons.inj (List.cons.inj heq).2).1 hinfinity
  · next heq =>
    obtain rfl := (List.cons.inj heq).2
    rfl
  · next hother => exact absurd rfl (hother _)

theorem readNumber_eq_longNumber_iff {cs : List Char} :
    readNumber cs = .error .longNumber ↔ StartsLong cs := by
  constructor
  · intro h
    unfold readNumber at h
    split at h
    · cases h
    · obtain ⟨whole, after, hpart, hlong, hfraction, hexponent⟩ :=
        readMagnitude_eq_longNumber_iff.mp h
      obtain ⟨rfl, hdigits, hzero, hafter⟩ := (integerPart_eq_some_iff hlong).mp hpart
      have hsign : (['-'] : List Char) = [] ∨ ['-'] = ['-'] := .inr rfl
      exact .intro hsign hdigits hzero hlong hafter hfraction hexponent
    · obtain ⟨whole, after, hpart, hlong, hfraction, hexponent⟩ :=
        readMagnitude_eq_longNumber_iff.mp h
      obtain ⟨rfl, hdigits, hzero, hafter⟩ := (integerPart_eq_some_iff hlong).mp hpart
      have hsign : ([] : List Char) = [] ∨ [] = ['-'] := .inl rfl
      exact .intro hsign hdigits hzero hlong hafter hfraction hexponent
  · rintro ⟨hsign, hdigits, hzero, hlong, hafter, hfraction, hexponent⟩
    next sign whole after =>
    have hpart := (integerPart_eq_some_iff hlong).mpr ⟨rfl, hdigits, hzero, hafter⟩
    have hmagnitude : ∀ negative, readMagnitude negative (whole ++ after) = .error .longNumber :=
      fun negative => readMagnitude_eq_longNumber_iff.mpr
        ⟨whole, after, hpart, hlong, hfraction, hexponent⟩
    cases whole with
    | nil => exact absurd hlong (Nat.not_lt_zero _)
    | cons c whole =>
      have hc := hdigits c (List.mem_cons_self ..)
      rcases hsign with rfl | rfl
      · exact (readNumber_digit hc _).trans (hmagnitude false)
      · exact (readNumber_minus hc _).trans (hmagnitude true)

/-- What is to be read at the front of a text. -/
inductive Part where
  | value
  | items
  | members

/-- The reading comes to an integer that is too long: it stands in the first value for which the
values before it are all read. -/
inductive Comes : Part → List Char → Prop
  | number {cs : List Char} : StartsLong cs → Comes .value cs
  | list {rest : List Char} : Comes .items (skipBlanks rest) → Comes .value ('[' :: rest)
  | table {rest : List Char} : Comes .members (skipBlanks rest) → Comes .value ('\x7b' :: rest)
  | item {cs : List Char} : Comes .value cs → Comes .items cs
  | nextItem {cs after : List Char} {v : Value} {rest : Rest cs} : readValue cs = .ok (v, rest) →
      skipBlanks rest.val = ',' :: after → Comes .items (skipBlanks after) → Comes .items cs
  | member {rest afterName afterColon : List Char} {name : Text} :
      stringBody rest = some (name, afterName) → skipBlanks afterName = ':' :: afterColon →
      Comes .value (skipBlanks afterColon) → Comes .members ('"' :: rest)
  | nextMember {rest afterName afterColon after : List Char} {name : Text} {v : Value}
      {afterValue : Rest (skipBlanks afterColon)} :
      stringBody rest = some (name, afterName) → skipBlanks afterName = ':' :: afterColon →
      readValue (skipBlanks afterColon) = .ok (v, afterValue) →
      skipBlanks afterValue.val = ',' :: after → Comes .members (skipBlanks after) →
      Comes .members ('"' :: rest)

theorem exists_next_of_itemsAfter {v : Value} {rest : List Char}
    (h : itemsAfter v rest = .error .longNumber) :
    ∃ next, skipBlanks rest = ',' :: next ∧ readItems (skipBlanks next) = .error .longNumber := by
  unfold itemsAfter at h
  split at h
  · cases h
  next next hcomma =>
    refine ⟨next, hcomma, bare_eq_error_iff.mp ?_⟩
    exact map_eq_error_iff.mp h
  · cases h

theorem exists_next_of_membersAfter {members : List (Text × Value)} {rest : List Char}
    (h : membersAfter members rest = .error .longNumber) :
    ∃ next, skipBlanks rest = ',' :: next ∧
      readMembers members (skipBlanks next) = .error .longNumber := by
  unfold membersAfter at h
  split at h
  · cases h
  next next hcomma => exact ⟨next, hcomma, bare_eq_error_iff.mp h⟩
  · cases h

theorem exists_value_of_readMember {cs : List Char} (h : readMember cs = .error .longNumber) :
    ∃ name afterName afterColon, stringBody cs = some (name, afterName) ∧
      skipBlanks afterName = ':' :: afterColon ∧
      readValue (skipBlanks afterColon) = .error .longNumber := by
  unfold readMember at h
  split at h
  · cases h
  next name afterName hname =>
    split at h
    next afterColon hcolon =>
      exact ⟨name, afterName, afterColon, hname, hcolon,
        bare_eq_error_iff.mp (map_eq_error_iff.mp h)⟩
    · cases h

/-- A failure for the length of an integer is always on the way. -/
structure Met (cs : List Char) : Prop where
  value : readValue cs = .error .longNumber → Comes .value cs
  items : readItems cs = .error .longNumber → Comes .items cs
  members : ∀ before, readMembers before cs = .error .longNumber → Comes .members cs

section

variable {cs : List Char} (hlater : ∀ later : List Char, later.length < cs.length → Met later)
include hlater

theorem comes_of_readValue (h : readValue cs = .error .longNumber) : Comes .value cs := by
  unfold readValue at h
  split at h
  · split at h <;> cases h
  next start =>
    have hnext := hlater (skipBlanks start) (Nat.lt_succ_of_le (length_skipBlanks_le start))
    split at h
    · cases h
    · split at h
      next hitems =>
        cases h
        exact .list (hnext.items hitems)
      · cases h
  next start =>
    have hnext := hlater (skipBlanks start) (Nat.lt_succ_of_le (length_skipBlanks_le start))
    split at h
    · cases h
    · split at h
      next hmembers =>
        cases h
        exact .table (hnext.members [] hmembers)
      · cases h
  · cases h
  · cases h
  · cases h
  · cases h
  · cases h
  · split at h
    next hnumber =>
      cases h
      exact .number (readNumber_eq_longNumber_iff.mp hnumber)
    · cases h

theorem comes_of_readItems (h : readItems cs = .error .longNumber) : Comes .items cs := by
  rw [← bare_eq_error_iff, bare_readItems] at h
  rcases bind_eq_error_iff.mp h with hvalue | ⟨⟨v, rest⟩, hvalue, hafter⟩
  · exact .item (comes_of_readValue hlater (bare_eq_error_iff.mp hvalue))
  · obtain ⟨next, hcomma, hitems⟩ := exists_next_of_itemsAfter hafter
    obtain ⟨hlt, hread⟩ := bare_eq_ok_iff.mp hvalue
    exact .nextItem hread hcomma ((hlater _ (length_next_lt hlt hcomma)).items hitems)

theorem comes_of_readMembers {before : List (Text × Value)}
    (h : readMembers before cs = .error .longNumber) : Comes .members cs := by
  obtain ⟨cs, rfl⟩ := exists_cons_of_readMembers (h.trans_ne (by simp))
  rw [← bare_eq_error_iff, bare_readMembers] at h
  rcases bind_eq_error_iff.mp h with hmember | ⟨⟨⟨name, v⟩, rest⟩, hmember, hafter⟩
  · obtain ⟨t, afterName, afterColon, hname, hcolon, hvalue⟩ := exists_value_of_readMember hmember
    have hshorter := length_memberValue_lt hname hcolon
    exact .member hname hcolon ((hlater _ hshorter).value hvalue)
  · obtain ⟨next, hcomma, hmembers⟩ := exists_next_of_membersAfter hafter
    obtain ⟨t, afterName, afterColon, hname, -, hcolon, hvalue⟩ := readMember_eq_ok_iff.mp hmember
    obtain ⟨_, hread⟩ := bare_eq_ok_iff.mp hvalue
    have hshorter := length_next_lt (length_lt_of_readMember hmember) hcomma
    exact .nextMember hname hcolon hread hcomma ((hlater _ hshorter).members _ hmembers)

end

theorem met (cs : List Char) : Met cs := by
  induction cs using (measure fun cs : List Char => cs.length).wf.induction with
  | _ cs hlater =>
    exact ⟨comes_of_readValue hlater, comes_of_readItems hlater,
      fun _ => comes_of_readMembers hlater⟩

/-- How each reader ends on the way. -/
def Part.Refuses : Part → List Char → Prop
  | .value, cs => readValue cs = .error .longNumber
  | .items, cs => readItems cs = .error .longNumber
  | .members, cs => ∀ before, readMembers before cs = .error .longNumber

theorem StartsLong.exists_cons {cs : List Char} (h : StartsLong cs) :
    ∃ c rest, cs = c :: rest ∧ (c = '-' ∨ isDigit c = true) := by
  obtain ⟨hsign, hdigits, -, hlong, -, -, -⟩ := h
  next sign whole after =>
  rcases hsign with rfl | rfl
  · cases whole with
    | nil => exact absurd hlong (Nat.not_lt_zero _)
    | cons c whole => exact ⟨c, whole ++ after, rfl, .inr (hdigits c (List.mem_cons_self ..))⟩
  · exact ⟨'-', whole ++ after, rfl, .inl rfl⟩

/-- The characters that values other than numbers start with. -/
def otherStarts : List Char := ['"', '[', '\x7b', 'n', 't', 'f', 'N', 'I']

theorem notMem_otherStarts {c : Char} (h : c = '-' ∨ isDigit c = true) : c ∉ otherStarts := by
  have hother : ∀ d ∈ otherStarts, ¬(d = '-' ∨ isDigit d = true) := by
    simp [otherStarts, isDigit]
  exact fun hc => hother c hc h

/-- What starts like no other value is read as a number. -/
theorem bare_readValue_number {c : Char} {rest : List Char} (hc : c ∉ otherStarts) :
    bare (readValue (c :: rest)) = readNumber (c :: rest) := by
  generalize hcons : c :: rest = cs
  unfold readValue
  split
  case h_9 =>
    split
    · next hread => exact hread.symm
    · next hread => exact hread.symm
  -- every other case of the reader starts with a character of the list
  all_goals
    rw [(List.cons.inj hcons).1] at hc
    exact absurd (by decide) hc

theorem readValue_of_startsLong {cs : List Char} (h : StartsLong cs) :
    readValue cs = .error .longNumber := by
  have hnumber := readNumber_eq_longNumber_iff.mpr h
  obtain ⟨c, rest, rfl, hc⟩ := h.exists_cons
  exact bare_eq_error_iff.mp ((bare_readValue_number (notMem_otherStarts hc)).trans hnumber)

theorem readValue_closed (after : List Char) : readValue (']' :: after) = .error .malformed :=
  bare_eq_error_iff.mp (bare_readValue_number (by decide))

section Members

variable {rest afterName afterColon : List Char} {name : Text} {e : Fault}
  (hname : stringBody rest = some (name, afterName))
  (hcolon : skipBlanks afterName = ':' :: afterColon)
include hname hcolon

theorem readMembers_of_error (hvalue : readValue (skipBlanks afterColon) = .error e)
    (before : List (Text × Value)) : readMembers before ('"' :: rest) = .error e := by
  rw [← bare_eq_error_iff, bare_readMembers, readMember_eq hname hcolon, hvalue]
  rfl

theorem readMembers_of_next {after : List Char} {v : Value}
    {afterValue : Rest (skipBlanks afterColon)}
    (hvalue : readValue (skipBlanks afterColon) = .ok (v, afterValue))
    (hcomma : skipBlanks afterValue.val = ',' :: after)
    (hrest : ∀ before, readMembers before (skipBlanks after) = .error e)
    (before : List (Text × Value)) : readMembers before ('"' :: rest) = .error e := by
  rw [← bare_eq_error_iff, bare_readMembers, readMember_eq hname hcolon, hvalue]
  change membersAfter (Value.setMember (joinPairs name) v before) afterValue.val = _
  rw [membersAfter_comma hcomma, hrest]
  rfl

end Members

theorem Comes.refuses {part : Part} {cs : List Char} (h : Comes part cs) : part.Refuses cs := by
  induction h with
  | number h => exact readValue_of_startsLong h
  | @list rest _ ih =>
    change readValue _ = _
    have hitems : readItems (skipBlanks rest) = .error .longNumber := ih
    simp only [readValue]
    split
    · next after hclosed =>
      rw [hclosed, readItems, readValue_closed] at hitems
      cases hitems
    · rw [hitems]
  | @table rest _ ih =>
    change readValue _ = _
    have hmembers : readMembers [] (skipBlanks rest) = .error .longNumber := ih []
    simp only [readValue]
    split
    · next after hclosed =>
      rw [hclosed] at hmembers
      simp [readMembers] at hmembers
    · rw [hmembers]
  | item _ ih =>
    change readItems _ = _
    have hvalue : readValue _ = .error .longNumber := ih
    rw [readItems, hvalue]
  | @nextItem cs after v rest hvalue hcomma _ ih =>
    change readItems _ = _
    have hitems : readItems _ = .error .longNumber := ih
    rw [← bare_eq_error_iff, bare_readItems, hvalue]
    change itemsAfter v rest.val = _
    rw [itemsAfter_comma hcomma, hitems]
    rfl
  | member hname hcolon _ ih => exact readMembers_of_error hname hcolon ih
  | nextMember hname hcolon hvalue hcomma _ ih =>
    exact readMembers_of_next hname hcolon hvalue hcomma ih

/-- A document is refused for the length of an integer exactly if its reading comes to one. -/
theorem read_eq_longNumber_iff {cs : List Char} :
    read cs = .error .longNumber ↔ Comes .value (skipBlanks cs) := by
  constructor
  · intro h
    unfold read at h
    split at h
    next hvalue =>
      cases h
      exact (met _).value hvalue
    · split_ifs at h
      cases h
  · intro h
    have hvalue : readValue (skipBlanks cs) = .error .longNumber := h.refuses
    rw [read, hvalue]

end ImportStubs.Json
