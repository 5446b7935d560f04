import ImportStubs.Value

/-!
# Reading JSON

A document is one value with blanks around it. Beyond the standard grammar the words `NaN`,
`Infinity` and `-Infinity` are numbers; an escape may leave half of a surrogate pair; and of two
members with one name the later value counts, at the place of the earlier. A number with neither
fraction nor exponent is an integer, and one with more than 4300 digits is refused with a fault of
its own, because it is read before anything after it is looked at. Lists and tables may be nested to
any depth: the bound that a stack of calls sets is left out, here and wherever values are written.
-/

namespace ImportStubs.Json

inductive Fault where
  | malformed
  | longNumber
deriving DecidableEq, Repr

/-- What is left of a text after something was read from it. -/
abbrev Rest (cs : List Char) := { rest : List Char // rest.length < cs.length }

def isBlank (c : Char) : Bool := c == ' ' || c == '\t' || c == '\n' || c == '\r'

def skipBlanks (cs : List Char) : List Char := cs.dropWhile isBlank

theorem length_skipBlanks_le (cs : List Char) : (skipBlanks cs).length ≤ cs.length :=
  (List.dropWhile_sublist isBlank).length_le

theorem lt_of_skipBlanks_eq {cs rest : List Char} {c : Char} (h : skipBlanks cs = c :: rest) :
    rest.length < cs.length := by
  have := length_skipBlanks_le cs
  rw [h, List.length_cons] at this
  omega

/-- The character that a letter after a backslash stands for. -/
def simpleEscape? (c : Char) : Option Char :=
  if c = '"' ∨ c = '\\' ∨ c = '/' then some c
  else if c = 'b' then some '\x08'
  else if c = 'f' then some '\x0c'
  else if c = 'n' then some '\n'
  else if c = 'r' then some '\r'
  else if c = 't' then some '\t'
  else none

def hex4? (a b c d : Char) : Option CodePoint := do
  let digits ← [a, b, c, d].mapM (Numeral.digitValue? 16)
  CodePoint.ofNat? (Numeral.ofDigits 16 digits)

/-- Joins an upper half of a surrogate pair with the lower half after it. -/
def joinPairs : Text → Text
  | .surrogate high :: .surrogate low :: rest =>
    if high.val < 0x400 ∧ 0x400 ≤ low.val then
      .char (Char.ofNat (0x10000 + high.val * 0x400 + (low.val - 0x400))) :: joinPairs rest
    else .surrogate high :: joinPairs (.surrogate low :: rest)
  | c :: rest => c :: joinPairs rest
  | [] => []

/-- The code points up to the closing quotation mark, and what follows it. -/
def stringBody : List Char → Option (Text × List Char)
  | [] => none
  | '"' :: rest => some ([], rest)
  | '\\' :: 'u' :: a :: b :: c :: d :: rest => do
    let point ← hex4? a b c d
    let (t, rest) ← stringBody rest
    return (point :: t, rest)
  | '\\' :: e :: rest => do
    let c ← simpleEscape? e
    let (t, rest) ← stringBody rest
    return (.char c :: t, rest)
  | c :: rest =>
    if c.toNat < 0x20 ∨ c = '\\' then none
    else (stringBody rest).map fun (t, rest) => (.char c :: t, rest)

theorem length_stringBody_lt {cs : List Char} {t : Text} {rest : List Char}
    (h : stringBody cs = some (t, rest)) :
    rest.length < cs.length := by
  fun_induction stringBody cs generalizing t rest with
  | case1 => simp at h
  | case2 r =>
    obtain ⟨-, rfl⟩ := Prod.mk.injEq .. ▸ Option.some.injEq .. ▸ h
    simp
  | case3 a b c d r ih =>
    simp only [Option.bind_eq_bind, Option.bind_eq_some_iff] at h
    obtain ⟨_, -, ⟨u, s⟩, hu, he⟩ := h
    have := ih hu
    simp only [Option.pure_def, Option.some.injEq, Prod.mk.injEq] at he
    obtain ⟨-, rfl⟩ := he
    simp only [List.length_cons]
    omega
  | case4 e r _ ih =>
    simp only [Option.bind_eq_bind, Option.bind_eq_some_iff] at h
    obtain ⟨_, -, ⟨u, s⟩, hu, he⟩ := h
    have := ih hu
    simp only [Option.pure_def, Option.some.injEq, Prod.mk.injEq] at he
    obtain ⟨-, rfl⟩ := he
    simp only [List.length_cons]
    omega
  | case5 => simp at h
  | case6 c r _ _ _ _ ih =>
    obtain ⟨⟨u, s⟩, hu, he⟩ := Option.map_eq_some_iff.1 h
    have := ih hu
    simp only [Prod.mk.injEq] at he
    obtain ⟨-, rfl⟩ := he
    simp only [List.length_cons]
    omega

def isDigit (c : Char) : Bool := '0' ≤ c && c ≤ '9'

def digitRun (cs : List Char) : List Char × List Char :=
  (cs.takeWhile isDigit, cs.dropWhile isDigit)

def natOf (digits : List Char) : Nat := digits.foldl (fun n c => n * 10 + (c.toNat - 0x30)) 0

/-- The integer part: one zero, or digits that start with another one. -/
def integerPart : List Char → Option (List Char × List Char)
  | '0' :: rest => some (['0'], rest)
  | c :: rest => if isDigit c then some (digitRun (c :: rest)) else none
  | [] => none

/-- A point and the digits after it; nothing when no digit follows. -/
def fractionPart : List Char → List Char × List Char
  | '.' :: rest => match digitRun rest with
    | ([], _) => ([], '.' :: rest)
    | run => run
  | cs => ([], cs)

/-- The exponent of ten; nothing when no digit follows the mark and the sign. -/
def exponentPart : List Char → Option Int × List Char
  | mark :: rest =>
    if mark = 'e' ∨ mark = 'E' then
      let (negative, digits) := match rest with
        | '-' :: r => (true, r)
        | '+' :: r => (false, r)
        | r => (false, r)
      match digitRun digits with
      | ([], _) => (none, mark :: rest)
      | (run, after) => (some (if negative then -(natOf run : Int) else natOf run), after)
    else (none, mark :: rest)
  | [] => (none, [])

/-- A number without its sign. -/
def readMagnitude (negative : Bool) (cs : List Char) : Except Fault (Value × List Char) :=
  match integerPart cs with
  | none => .error .malformed
  | some (whole, afterWhole) =>
    let (fraction, afterFraction) := fractionPart afterWhole
    let (exponent, rest) := exponentPart afterFraction
    if fraction.isEmpty ∧ exponent.isNone then
      if whole.length ≤ Numeral.decimalLimit then
        .ok (.int (if negative then -(natOf whole : Int) else natOf whole), rest)
      else .error .longNumber
    else
      .ok (.float (Binary64.ofDecimal negative (natOf (whole ++ fraction))
        (exponent.getD 0 - fraction.length)), rest)

def readNumber : List Char → Except Fault (Value × List Char)
  | '-' :: 'I' :: 'n' :: 'f' :: 'i' :: 'n' :: 'i' :: 't' :: 'y' :: rest =>
    .ok (.float (.infinite true), rest)
  | '-' :: cs => readMagnitude true cs
  | cs => readMagnitude false cs

theorem length_digitRun_le (cs : List Char) : (digitRun cs).2.length ≤ cs.length :=
  (List.dropWhile_sublist isDigit).length_le

theorem length_integerPart_lt {cs whole rest : List Char}
    (h : integerPart cs = some (whole, rest)) :
    rest.length < cs.length := by
  unfold integerPart at h
  split at h
  · simp only [Option.some.injEq, Prod.mk.injEq] at h
    obtain ⟨-, rfl⟩ := h
    simp
  · rename_i c r _
    split at h
    · rename_i hc
      have : (digitRun (c :: r)).2 = r.dropWhile isDigit := by simp [digitRun, hc]
      simp only [Option.some.injEq] at h
      rw [h] at this
      simp only at this
      have hle : (r.dropWhile isDigit).length ≤ r.length :=
        (List.dropWhile_sublist isDigit).length_le
      rw [← this] at hle
      simp only [List.length_cons]
      omega
    · simp at h
  · simp at h

theorem length_fractionPart_le (cs : List Char) : (fractionPart cs).2.length ≤ cs.length := by
  unfold fractionPart
  split
  · rename_i rest
    split
    · exact Nat.le_refl _
    · exact Nat.le_succ_of_le (length_digitRun_le rest)
  · exact Nat.le_refl _

theorem length_exponentPart_le (cs : List Char) : (exponentPart cs).2.length ≤ cs.length := by
  unfold exponentPart
  split
  · rename_i mark rest
    split
    · split
      rename_i negative digits hd
      have hlen : digits.length ≤ rest.length := by
        split at hd <;> simp only [Prod.mk.injEq] at hd <;> obtain ⟨-, rfl⟩ := hd <;> simp
      split
      · exact Nat.le_refl _
      · rename_i run after _ hr
        have := length_digitRun_le digits
        rw [hr] at this
        simp only [List.length_cons]
        simp only at this
        omega
    · exact Nat.le_refl _
  · exact Nat.le_refl _

theorem length_readMagnitude_lt {negative : Bool} {cs rest : List Char} {v : Value}
    (h : readMagnitude negative cs = .ok (v, rest)) : rest.length < cs.length := by
  unfold readMagnitude at h
  split at h
  · simp at h
  · rename_i whole afterWhole hw
    have h1 := length_integerPart_lt hw
    have h2 := length_fractionPart_le afterWhole
    have h3 := length_exponentPart_le (fractionPart afterWhole).2
    simp only at h
    split at h
    · split at h
      · simp only [Except.ok.injEq, Prod.mk.injEq] at h
        obtain ⟨-, rfl⟩ := h
        omega
      · simp at h
    · simp only [Except.ok.injEq, Prod.mk.injEq] at h
      obtain ⟨-, rfl⟩ := h
      omega

theorem length_readNumber_lt {cs rest : List Char} {v : Value} (h : readNumber cs = .ok (v, rest)) :
    rest.length < cs.length := by
  unfold readNumber at h
  split at h
  · simp only [Except.ok.injEq, Prod.mk.injEq] at h
    obtain ⟨-, rfl⟩ := h
    simp only [List.length_cons]
    omega
  · exact Nat.lt_succ_of_lt (length_readMagnitude_lt h)
  · exact length_readMagnitude_lt h

mutual

/-- A value at the start of the text. -/
def readValue (cs : List Char) : Except Fault (Value × Rest cs) :=
  match cs with
  | '"' :: rest =>
    match h : stringBody rest with
    | some (t, after) =>
      .ok (.text (joinPairs t), ⟨after, Nat.lt_succ_of_lt (length_stringBody_lt h)⟩)
    | none => .error .malformed
  | '[' :: rest =>
    match h : skipBlanks rest with
    | ']' :: after => .ok (.list [], ⟨after, Nat.lt_succ_of_lt (lt_of_skipBlanks_eq h)⟩)
    | _ =>
      match readItems (skipBlanks rest) with
      | .error e => .error e
      | .ok (items, ⟨after, hafter⟩) =>
        .ok (.list items, ⟨after, Nat.lt_succ_of_lt
          (Nat.lt_of_lt_of_le hafter (length_skipBlanks_le rest))⟩)
  | '\x7b' :: rest =>
    match h : skipBlanks rest with
    | '\x7d' :: after => .ok (.table [], ⟨after, Nat.lt_succ_of_lt (lt_of_skipBlanks_eq h)⟩)
    | _ =>
      match readMembers [] (skipBlanks rest) with
      | .error e => .error e
      | .ok (members, ⟨after, hafter⟩) =>
        .ok (.table members, ⟨after, Nat.lt_succ_of_lt
          (Nat.lt_of_lt_of_le hafter (length_skipBlanks_le rest))⟩)
  | 'n' :: 'u' :: 'l' :: 'l' :: rest => .ok (.null, ⟨rest, by simp only [List.length_cons]; omega⟩)
  | 't' :: 'r' :: 'u' :: 'e' :: rest =>
    .ok (.bool true, ⟨rest, by simp only [List.length_cons]; omega⟩)
  | 'f' :: 'a' :: 'l' :: 's' :: 'e' :: rest =>
    .ok (.bool false, ⟨rest, by simp only [List.length_cons]; omega⟩)
  | 'N' :: 'a' :: 'N' :: rest => .ok (.float .nan, ⟨rest, by simp only [List.length_cons]; omega⟩)
  | 'I' :: 'n' :: 'f' :: 'i' :: 'n' :: 'i' :: 't' :: 'y' :: rest =>
    .ok (.float (.infinite false), ⟨rest, by simp only [List.length_cons]; omega⟩)
  | cs =>
    match h : readNumber cs with
    | .error e => .error e
    | .ok (v, after) => .ok (v, ⟨after, length_readNumber_lt h⟩)
termination_by (cs.length, 0)
decreasing_by
  all_goals
    have := length_skipBlanks_le rest
    simp only [List.length_cons, Prod.lex_def]
    omega

/-- The items of a list up to its closing bracket; at least one. -/
def readItems (cs : List Char) : Except Fault (List Value × Rest cs) :=
  match readValue cs with
  | .error e => .error e
  | .ok (v, ⟨rest, hrest⟩) =>
    match h : skipBlanks rest with
    | ']' :: after => .ok ([v], ⟨after, Nat.lt_trans (lt_of_skipBlanks_eq h) hrest⟩)
    | ',' :: next =>
      match readItems (skipBlanks next) with
      | .error e => .error e
      | .ok (items, ⟨after, hafter⟩) =>
        .ok (v :: items, ⟨after, by
          have := lt_of_skipBlanks_eq h
          have := length_skipBlanks_le next
          omega⟩)
    | _ => .error .malformed
termination_by (cs.length, 1)
decreasing_by
  · exact Prod.Lex.right _ (by decide)
  · have := lt_of_skipBlanks_eq h
    have := length_skipBlanks_le next
    simp only [Prod.lex_def]
    omega

/-- The members of a table up to its closing brace, set one after the other; at least one. -/
def readMembers (members : List (Text × Value)) (cs : List Char) :
    Except Fault (List (Text × Value) × Rest cs) :=
  match cs with
  | '"' :: rest =>
    match hname : stringBody rest with
    | none => .error .malformed
    | some (name, afterName) =>
      match hcolon : skipBlanks afterName with
      | ':' :: afterColon =>
        match readValue (skipBlanks afterColon) with
        | .error e => .error e
        | .ok (v, ⟨afterValue, hvalue⟩) =>
          match hnext : skipBlanks afterValue with
          | '\x7d' :: after =>
            .ok (Value.setMember (joinPairs name) v members, ⟨after, by
              have := length_stringBody_lt hname
              have := lt_of_skipBlanks_eq hcolon
              have := length_skipBlanks_le afterColon
              have := lt_of_skipBlanks_eq hnext
              simp only [List.length_cons]
              omega⟩)
          | ',' :: next =>
            match readMembers (Value.setMember (joinPairs name) v members) (skipBlanks next) with
            | .error e => .error e
            | .ok (all, ⟨after, hafter⟩) =>
              .ok (all, ⟨after, by
                have := length_stringBody_lt hname
                have := lt_of_skipBlanks_eq hcolon
                have := length_skipBlanks_le afterColon
                have := lt_of_skipBlanks_eq hnext
                have := length_skipBlanks_le next
                simp only [List.length_cons]
                omega⟩)
          | _ => .error .malformed
      | _ => .error .malformed
  | _ => .error .malformed
termination_by (cs.length, 1)
decreasing_by
  · have := length_stringBody_lt hname
    have := lt_of_skipBlanks_eq hcolon
    have := length_skipBlanks_le afterColon
    simp only [List.length_cons, Prod.lex_def]
    omega
  · have := length_stringBody_lt hname
    have := lt_of_skipBlanks_eq hcolon
    have := length_skipBlanks_le afterColon
    have := lt_of_skipBlanks_eq hnext
    have := length_skipBlanks_le next
    simp only [List.length_cons, Prod.lex_def]
    omega

end

/-- The value of a whole document. -/
def read (cs : List Char) : Except Fault Value :=
  match readValue (skipBlanks cs) with
  | .error e => .error e
  | .ok (v, rest) => if (skipBlanks rest.val).isEmpty then .ok v else .error .malformed

end ImportStubs.Json
