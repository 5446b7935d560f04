import ImportStubs.Number.Numeral

/-!
# The pieces of a template

A template is literal text with directives, each of which starts with a percent sign: optionally a
name in parentheses, flags, a width and a precision, and then a letter for the conversion. Two
percent signs stand for one of the text.
-/

namespace ImportStubs.Template

/-- A width or a precision. -/
inductive Count where
  | given (n : Nat)
  | argument
deriving DecidableEq, Repr

structure Flags where
  left : Bool := false
  plus : Bool := false
  blank : Bool := false
  alternate : Bool := false
  zero : Bool := false
deriving DecidableEq, Repr

structure Directive where
  name : Option Text := none
  flags : Flags := {}
  width : Option Count := none
  precision : Option Count := none
  /-- Absent if the template ends before it. -/
  conversion : Option CodePoint
  /-- The place of the conversion in the template. -/
  position : Nat
deriving DecidableEq, Repr

inductive Piece where
  | literal (c : CodePoint)
  | directive (d : Directive)
  /-- A name that is not closed, with which the template ends. -/
  | openName
deriving DecidableEq, Repr

/-- The name up to the parenthesis that closes it; parentheses in it are balanced. -/
def readName? (depth : Nat) : Text → Option (Text × Text)
  | [] => none
  | c :: rest =>
    if c = .char '(' then (readName? (depth + 1) rest).map fun (name, rest) => (c :: name, rest)
    else if c = .char ')' then
      match depth with
      | 0 => some ([], rest)
      | depth + 1 => (readName? depth rest).map fun (name, rest) => (c :: name, rest)
    else (readName? depth rest).map fun (name, rest) => (c :: name, rest)

theorem length_of_readName? {depth : Nat} {t name after : Text}
    (h : readName? depth t = some (name, after)) :
    after.length < t.length := by
  induction t generalizing depth name with
  | nil => simp [readName?] at h
  | cons c rest ih =>
    have step {depth : Nat}
        (h : ((readName? depth rest).map fun r => (c :: r.1, r.2)) = some (name, after)) :
        after.length < (c :: rest).length := by
      obtain ⟨r, hr, he⟩ := Option.map_eq_some_iff.1 h
      obtain ⟨-, rfl⟩ := Prod.mk.inj he
      exact Nat.lt_succ_of_lt (ih hr)
    unfold readName? at h
    split at h
    · exact step h
    · split at h
      · split at h
        · obtain ⟨-, rfl⟩ := Prod.mk.inj (Option.some.inj h)
          exact Nat.lt_succ_self _
        · exact step h
      · exact step h

def readFlags (flags : Flags) : Text → Flags × Text
  | .char '-' :: rest => readFlags { flags with left := true } rest
  | .char '+' :: rest => readFlags { flags with plus := true } rest
  | .char ' ' :: rest => readFlags { flags with blank := true } rest
  | .char '#' :: rest => readFlags { flags with alternate := true } rest
  | .char '0' :: rest => readFlags { flags with zero := true } rest
  | rest => (flags, rest)

theorem length_readFlags (flags : Flags) (t : Text) : (readFlags flags t).2.length ≤ t.length := by
  fun_induction readFlags flags t <;> simp_all <;> omega

def isDigit (c : CodePoint) : Bool := 0x30 ≤ c.value && c.value ≤ 0x39

/-- A count, if one stands here. -/
def readCount : Text → Option Count × Text
  | .char '*' :: rest => (some .argument, rest)
  | cs =>
    let digits := cs.takeWhile isDigit
    if digits.isEmpty then (none, cs)
    else
      (some (.given (Numeral.ofDigits 10 (digits.map fun c => c.value - 0x30))),
        cs.dropWhile isDigit)

theorem length_readCount (t : Text) : (readCount t).2.length ≤ t.length := by
  unfold readCount
  split
  · simp
  · dsimp only
    split
    · simp
    · exact (List.dropWhile_suffix _).length_le

/-- A precision after a point; a point alone means zero. -/
def readPrecision : Text → Option Count × Text
  | .char '.' :: rest =>
    let (count, rest) := readCount rest
    (some (count.getD (.given 0)), rest)
  | rest => (none, rest)

theorem length_readPrecision (t : Text) : (readPrecision t).2.length ≤ t.length := by
  unfold readPrecision
  split
  · exact Nat.le_succ_of_le (length_readCount _)
  · simp

/-- A size letter means nothing. -/
def skipSize : Text → Text
  | .char c :: rest => if c = 'h' ∨ c = 'l' ∨ c = 'L' then rest else .char c :: rest
  | rest => rest

theorem length_skipSize (t : Text) : (skipSize t).length ≤ t.length := by
  unfold skipSize
  split
  · split <;> simp
  · simp

/-- A directive from its flags on, in a template of some length. -/
def readUnnamed (length : Nat) (name : Option Text) (t : Text) : Directive × Text :=
  let (flags, t) := readFlags {} t
  let (width, t) := readCount t
  let (precision, t) := readPrecision t
  let t := skipSize t
  let position := length - t.length
  ({ name, flags, width, precision, conversion := t.head?, position }, t.drop 1)

theorem length_readUnnamed (length : Nat) (name : Option Text) (t : Text) :
    (readUnnamed length name t).2.length ≤ t.length := by
  have flags := length_readFlags {} t
  have width := length_readCount (readFlags {} t).2
  have precision := length_readPrecision (readCount (readFlags {} t).2).2
  have size := length_skipSize (readPrecision (readCount (readFlags {} t).2).2).2
  simp only [readUnnamed, List.length_drop]
  omega

/-- What follows a percent sign. -/
def readDirective (length : Nat) : Text → Piece × Text
  | .char '%' :: rest => (.literal '%', rest)
  | .char '(' :: rest =>
    match readName? 0 rest with
    | none => (.openName, [])
    | some (name, rest) => (readUnnamed length (some name) rest).map .directive id
  | rest => (readUnnamed length none rest).map .directive id

theorem length_readDirective (length : Nat) (t : Text) :
    (readDirective length t).2.length ≤ t.length := by
  unfold readDirective
  split
  · simp
  · split
    · simp
    · next name after h =>
      exact Nat.le_trans (length_readUnnamed length (some name) after)
        (Nat.le_succ_of_le (Nat.le_of_lt (length_of_readName? h)))
  · exact length_readUnnamed length none t

/-- The pieces of the end of a template of some length. -/
def readPieces (length : Nat) : Text → List Piece
  | [] => []
  | c :: rest =>
    if c = .char '%' then
      (readDirective length rest).1 :: readPieces length (readDirective length rest).2
    else .literal c :: readPieces length rest
termination_by t => t.length
decreasing_by
  · exact Nat.lt_succ_of_le (length_readDirective length rest)
  · exact Nat.lt_succ_self _

def read (template : Text) : List Piece := readPieces template.length template

end ImportStubs.Template
