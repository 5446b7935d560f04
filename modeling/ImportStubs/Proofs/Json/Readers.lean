import ImportStubs.Json.Reader
import ImportStubs.Proofs.Except

/-!
# Lists and tables, reader by reader

A reader proves of what it leaves that it is shorter, which only its termination needs. Without this
proof the readers of lists and of tables are chains of results: a part is read, and what stands
after it decides how to go on.
-/

namespace ImportStubs.Json

/-- What a reader gives, without the proof that something was read. -/
def bare {α : Type} {cs : List Char} (r : Except Fault (α × Rest cs)) :
    Except Fault (α × List Char) :=
  r.map fun found => (found.1, found.2.val)

section

variable {α : Type} {cs : List Char} {r : Except Fault (α × Rest cs)}

theorem bare_of_ok {x : α} {rest : Rest cs} (h : r = .ok (x, rest)) :
    bare r = .ok (x, rest.val) := by
  rw [h]
  rfl

theorem bare_eq_ok_iff {x : α} {rest : List Char} :
    bare r = .ok (x, rest) ↔ ∃ h, r = .ok (x, ⟨rest, h⟩) := by
  constructor
  · intro h
    obtain ⟨⟨y, after, hlt⟩, hr, heq⟩ := map_eq_ok_iff.mp h
    obtain ⟨rfl, rfl⟩ := Prod.mk.inj heq
    exact ⟨hlt, hr⟩
  · rintro ⟨_, hr⟩
    exact bare_of_ok hr

theorem bare_eq_error_iff {e : Fault} : bare r = .error e ↔ r = .error e := by
  cases r <;> simp [bare, Except.map]

theorem length_lt_of_bare {x : α} {rest : List Char} (h : bare r = .ok (x, rest)) :
    rest.length < cs.length := (bare_eq_ok_iff.mp h).1

/-- What follows a sign is shorter than what was read up to it. -/
theorem length_next_lt {rest next : List Char} {c : Char} (h : rest.length < cs.length)
    (hsign : skipBlanks rest = c :: next) : (skipBlanks next).length < cs.length := by
  have hnext := lt_of_skipBlanks_eq hsign
  have hblanks := length_skipBlanks_le next
  omega

end

/-- How a list goes on after an item. -/
def itemsAfter (v : Value) (rest : List Char) : Except Fault (List Value × List Char) :=
  match skipBlanks rest with
  | ']' :: after => .ok ([v], after)
  | ',' :: next => (bare (readItems (skipBlanks next))).map fun found => (v :: found.1, found.2)
  | _ => .error .malformed

section

variable {v : Value} {rest : List Char}

theorem itemsAfter_closed {after : List Char} (h : skipBlanks rest = ']' :: after) :
    itemsAfter v rest = .ok ([v], after) := by simp only [itemsAfter, h]

theorem itemsAfter_comma {next : List Char} (h : skipBlanks rest = ',' :: next) :
    itemsAfter v rest =
      (bare (readItems (skipBlanks next))).map fun found => (v :: found.1, found.2) := by
  simp only [itemsAfter, h]

theorem itemsAfter_other (hclosed : ∀ after, skipBlanks rest ≠ ']' :: after)
    (hcomma : ∀ next, skipBlanks rest ≠ ',' :: next) :
    itemsAfter v rest = .error .malformed := by
  unfold itemsAfter
  split
  next h => exact absurd h (hclosed _)
  next h => exact absurd h (hcomma _)
  · rfl

end

theorem bare_readItems (cs : List Char) :
    bare (readItems cs) = bare (readValue cs) >>= fun found => itemsAfter found.1 found.2 := by
  rw [readItems]
  rcases readValue cs with e | ⟨v, rest, hrest⟩
  · rfl
  · change bare _ = itemsAfter v rest
    dsimp only
    split
    next hclosed =>
      rw [itemsAfter_closed hclosed]
      rfl
    next next hcomma =>
      rw [itemsAfter_comma hcomma]
      rcases readItems (skipBlanks next) with e | ⟨items, after, hafter⟩ <;> rfl
    next hclosed hcomma =>
      rw [itemsAfter_other hclosed hcomma]
      rfl

/-- A member of a table, from behind its first quotation mark. -/
def readMember (cs : List Char) : Except Fault ((Text × Value) × List Char) :=
  match stringBody cs with
  | none => .error .malformed
  | some (name, afterName) =>
    match skipBlanks afterName with
    | ':' :: afterColon =>
      (bare (readValue (skipBlanks afterColon))).map fun found =>
        ((joinPairs name, found.1), found.2)
    | _ => .error .malformed

theorem readMember_eq {cs afterName afterColon : List Char} {name : Text}
    (hname : stringBody cs = some (name, afterName))
    (hcolon : skipBlanks afterName = ':' :: afterColon) :
    readMember cs = (bare (readValue (skipBlanks afterColon))).map fun found =>
      ((joinPairs name, found.1), found.2) := by
  simp only [readMember, hname, hcolon]

theorem readMember_eq_ok_iff {cs rest : List Char} {name : Text} {v : Value} :
    readMember cs = .ok ((name, v), rest) ↔
      ∃ t afterName afterColon, stringBody cs = some (t, afterName) ∧ joinPairs t = name ∧
        skipBlanks afterName = ':' :: afterColon ∧
        bare (readValue (skipBlanks afterColon)) = .ok (v, rest) := by
  constructor
  · intro h
    unfold readMember at h
    split at h
    · cases h
    next t afterName hname =>
      split at h
      next afterColon hcolon =>
        obtain ⟨found, hvalue, heq⟩ := map_eq_ok_iff.mp h
        cases heq
        exact ⟨t, afterName, afterColon, hname, rfl, hcolon, hvalue⟩
      · cases h
  · rintro ⟨t, afterName, afterColon, hname, rfl, hcolon, hvalue⟩
    rw [readMember_eq hname hcolon, hvalue]
    rfl

/-- The value of a member is shorter than the member. -/
theorem length_memberValue_lt {cs afterName afterColon : List Char} {name : Text}
    (hname : stringBody cs = some (name, afterName))
    (hcolon : skipBlanks afterName = ':' :: afterColon) :
    (skipBlanks afterColon).length < ('"' :: cs).length :=
  Nat.lt_succ_of_lt (length_next_lt (length_stringBody_lt hname) hcolon)

theorem length_lt_of_readMember {cs rest : List Char} {m : Text × Value}
    (h : readMember cs = .ok (m, rest)) : rest.length < ('"' :: cs).length := by
  obtain ⟨t, afterName, afterColon, hname, -, hcolon, hvalue⟩ := readMember_eq_ok_iff.mp h
  exact Nat.lt_trans (length_lt_of_bare hvalue) (length_memberValue_lt hname hcolon)

/-- How a table goes on after the members that are set. -/
def membersAfter (members : List (Text × Value)) (rest : List Char) :
    Except Fault (List (Text × Value) × List Char) :=
  match skipBlanks rest with
  | '\x7d' :: after => .ok (members, after)
  | ',' :: next => bare (readMembers members (skipBlanks next))
  | _ => .error .malformed

section

variable {members : List (Text × Value)} {rest : List Char}

theorem membersAfter_closed {after : List Char} (h : skipBlanks rest = '\x7d' :: after) :
    membersAfter members rest = .ok (members, after) := by simp only [membersAfter, h]

theorem membersAfter_comma {next : List Char} (h : skipBlanks rest = ',' :: next) :
    membersAfter members rest = bare (readMembers members (skipBlanks next)) := by
  simp only [membersAfter, h]

theorem membersAfter_other (hclosed : ∀ after, skipBlanks rest ≠ '\x7d' :: after)
    (hcomma : ∀ next, skipBlanks rest ≠ ',' :: next) :
    membersAfter members rest = .error .malformed := by
  unfold membersAfter
  split
  next h => exact absurd h (hclosed _)
  next h => exact absurd h (hcomma _)
  · rfl

end

theorem bare_readMembers (before : List (Text × Value)) (cs : List Char) :
    bare (readMembers before ('"' :: cs)) = readMember cs >>= fun found =>
      membersAfter (Value.setMember found.1.1 found.1.2 before) found.2 := by
  rw [readMembers]
  split
  next hname =>
    simp only [readMember, hname]
    rfl
  next name afterName hname =>
    split
    next afterColon hcolon =>
      rw [readMember_eq hname hcolon]
      rcases readValue (skipBlanks afterColon) with e | ⟨v, rest, hrest⟩
      · rfl
      · change bare _ = membersAfter (Value.setMember (joinPairs name) v before) rest
        dsimp only
        split
        next hclosed =>
          rw [membersAfter_closed hclosed]
          rfl
        next next hcomma =>
          rw [membersAfter_comma hcomma]
          rcases readMembers (Value.setMember (joinPairs name) v before) (skipBlanks next) with
            e | ⟨members, after, hafter⟩ <;> rfl
        next hclosed hcomma =>
          rw [membersAfter_other hclosed hcomma]
          rfl
    next hother =>
      have hmalformed : readMember cs = .error .malformed := by
        simp only [readMember, hname]
      rw [hmalformed]
      rfl

/-- Only a quotation mark starts a member. -/
theorem exists_cons_of_readMembers {before : List (Text × Value)} {cs : List Char}
    (h : readMembers before cs ≠ .error .malformed) : ∃ body, cs = '"' :: body := by
  unfold readMembers at h
  split at h
  · exact ⟨_, rfl⟩
  · exact absurd rfl h

end ImportStubs.Json
