import ImportStubs.Number.Numeral
import ImportStubs.Text.WordPoint

/-!
# Parameters of a handler

A tag can name a handler with parameters in parentheses. They are numbers, quoted text, truth
values, and tuples, sets and tables of these. A handler is never called here, so all that is asked
of its parameters is whether they are well formed.
-/

namespace ImportStubs.Console.Markup.Parameters

def isDigit (radix : Nat) (c : Char) : Bool := (Numeral.digitValue? radix c).isSome

/-- The number of digits at the front, and the rest; a low line may stand in front of each. -/
def moreDigits (radix : Nat) : List Char → Nat × List Char
  | '_' :: c :: rest =>
    if isDigit radix c then
      let (n, after) := moreDigits radix rest
      (n + 1, after)
    else (0, '_' :: c :: rest)
  | c :: rest =>
    if isDigit radix c then
      let (n, after) := moreDigits radix rest
      (n + 1, after)
    else (0, c :: rest)
  | [] => (0, [])

/-- The number of digits at the front, and the rest; a low line may stand between two of them. -/
def digits (radix : Nat) (cs : List Char) : Nat × List Char :=
  if cs.head? = some '_' then (0, cs) else moreDigits radix cs

/-- What follows an exponent, or everything if there is none. -/
def afterExponent (cs : List Char) : List Char :=
  match cs with
  | e :: rest =>
    let unsigned := match rest with
      | '+' :: rest | '-' :: rest => rest
      | rest => rest
    let (n, after) := digits 10 unsigned
    if (e = 'e' ∨ e = 'E') ∧ 0 < n then after else cs
  | [] => []

def afterFraction : List Char → List Char
  | '.' :: rest => (digits 10 rest).2
  | rest => rest

/-- An integer of some digits starts with a zero only if all are zeros, and else keeps to the
decimal limit. -/
def isInteger (cs : List Char) (count : Nat) : Bool :=
  let zeros := (cs.takeWhile fun c => c = '0' ∨ c = '_').filter (· = '0')
  zeros.length == count || (zeros.isEmpty && count ≤ Numeral.decimalLimit)

def decimal? (cs : List Char) : Option (Bool × List Char) :=
  let (count, afterWhole) := digits 10 cs
  let after := afterExponent (afterFraction afterWhole)
  match after with
  | 'j' :: rest | 'J' :: rest => some (true, rest)
  | rest =>
    if rest.length < afterWhole.length ∨ isInteger cs count then some (false, rest) else none

def number? (cs : List Char) : Option (Bool × List Char) :=
  match cs with
  | '0' :: mark :: rest =>
    match Numeral.radixOfMark? mark with
    | none => decimal? cs
    | some radix =>
      let (n, after) := digits radix (Numeral.dropUnderscore rest)
      if n = 0 then none else some (false, after)
  | _ => decimal? cs

def isLineEnd (c : Char) : Bool := c == '\n' || c == '\r'

def content? (mark : Char) : List Char → Option (List Char × List Char)
  | [] => none
  | '\\' :: c :: rest =>
    (content? mark rest).map fun (content, after) => ('\\' :: c :: content, after)
  | c :: rest =>
    if c = mark then some ([], rest)
    else if isLineEnd c ∨ c = '\\' then none
    else (content? mark rest).map fun (content, after) => (c :: content, after)

/-- The content up to three quotation marks, and the rest; it may have several lines. -/
def longContent? (mark : Char) : List Char → Option (List Char × List Char)
  | [] => none
  | '\\' :: c :: rest =>
    (longContent? mark rest).map fun (content, after) => ('\\' :: c :: content, after)
  | c :: rest =>
    if c = mark ∧ rest.take 2 = [mark, mark] then some ([], rest.drop 2)
    else if c = '\\' then none
    else (longContent? mark rest).map fun (content, after) => (c :: content, after)

def startsWithHex (n : Nat) (cs : List Char) : Bool :=
  (cs.take n).length == n && (cs.take n).all (isDigit 16)

def isCodePoint (cs : List Char) : Bool :=
  Numeral.ofDigits 16 ((cs.take 8).filterMap (Numeral.digitValue? 16)) < 0x110000

def startsWithName : List Char → Bool
  | '\x7b' :: rest =>
    let name := rest.takeWhile fun c => c.isAlphanum || c == ' ' || c == '-'
    !name.isEmpty && (rest.drop name.length).head? == some '\x7d'
  | _ => false

/-- The escapes of a content have all their digits. Bytes know fewer of them. -/
def areEscapesComplete (isBytes : Bool) : List Char → Bool
  | '\\' :: 'x' :: rest => startsWithHex 2 rest && areEscapesComplete isBytes rest
  | '\\' :: 'u' :: rest => (isBytes || startsWithHex 4 rest) && areEscapesComplete isBytes rest
  | '\\' :: 'U' :: rest =>
    (isBytes || (startsWithHex 8 rest && isCodePoint rest)) && areEscapesComplete isBytes rest
  | '\\' :: 'N' :: rest => (isBytes || startsWithName rest) && areEscapesComplete isBytes rest
  | '\\' :: _ :: rest => areEscapesComplete isBytes rest
  | _ :: rest => areEscapesComplete isBytes rest
  | [] => true

/-- What follows a quoted text. Raw text has no escapes, and bytes are ASCII. -/
def afterQuoted? (isRaw isBytes : Bool) (cs : List Char) : Option (List Char) :=
  match cs with
  | mark :: rest =>
    let parts :=
      if rest.take 2 = [mark, mark] then longContent? mark (rest.drop 2) else content? mark rest
    parts.bind fun (content, after) =>
      if (isRaw || areEscapesComplete isBytes content) &&
        (!isBytes || content.all (·.toNat < 0x80)) then some after
      else none
  | [] => none

inductive Token where
  | number (isImaginary : Bool)
  | quoted (isBytes : Bool)
  /-- A truth value, nothing, or an ellipsis. -/
  | constant
  | setName
  | sign
  | comma
  | colon
  | openParenthesis
  | closeParenthesis
  | openBrace
  | closeBrace
deriving DecidableEq, Repr

namespace Token

def mark? : Char → Option Token
  | '+' | '-' => some sign
  | ',' => some comma
  | ':' => some colon
  | '(' => some openParenthesis
  | ')' => some closeParenthesis
  | '\x7b' => some openBrace
  | '\x7d' => some closeBrace
  | _ => none

/-- Letters in front of a quoted text: whether it is raw, and whether it stands for bytes. -/
def quotedForms : List (String × Bool × Bool) :=
  [("", false, false), ("u", false, false), ("r", true, false), ("b", false, true),
    ("br", true, true), ("rb", true, true)]

def constants : List String := ["True", "False", "None"]

def named? (name : List Char) (after : List Char) : Option (Token × List Char) :=
  if after.head? = some '"' ∨ after.head? = some '\'' then
    (quotedForms.find? fun f => f.1.toList == name.map Char.toLower).bind fun (_, isRaw, isBytes) =>
      (afterQuoted? isRaw isBytes after).map fun after => (quoted isBytes, after)
  else if constants.any fun c => c.toList == name then some (constant, after)
  else if name = ['s', 'e', 't'] then some (setName, after)
  else none

def read? (cs : List Char) : Option (Token × List Char) :=
  match cs with
  | [] => none
  | '.' :: '.' :: '.' :: rest => some (constant, rest)
  | c :: rest =>
    if isDigit 10 c ∨ (c = '.' ∧ rest.head?.any (isDigit 10)) then
      (number? cs).map fun (isImaginary, after) => (number isImaginary, after)
    else match mark? c with
      | some token => some (token, rest)
      | none =>
        let isNamePart (c : Char) : Bool := c.isAlphanum || c == '_'
        named? (cs.takeWhile isNamePart) (cs.dropWhile isNamePart)

/-- The brackets that are open after a token. -/
def depthAfter (depth : Nat) : Token → Nat
  | openParenthesis | openBrace => depth + 1
  | closeParenthesis | closeBrace => depth - 1
  | _ => depth

/-- Brackets may be nested that deep. -/
def depthLimit : Nat := 200

def isBlank (c : Char) : Bool := c == ' ' || c == '\t' || c == '\x0c'

/-- The tokens of a text in which some brackets are open. Between brackets it may have several
lines; otherwise only comments may follow the first line. -/
def readAll? (depth : Nat) (cs : List Char) : Option (List Token) :=
  match cs with
  | [] => some []
  | c :: rest =>
    if isBlank c then readAll? depth rest
    else if c = '#' then readAll? depth (rest.dropWhile fun c => !isLineEnd c)
    else if isLineEnd c then
      if depth = 0 then (readAll? depth rest).filter List.isEmpty else readAll? depth rest
    else if c = '\\' ∧ rest.head?.any isLineEnd then readAll? depth rest.tail
    else
      match read? (c :: rest) with
      | none => none
      | some (token, after) =>
        if _h : after.length < (c :: rest).length ∧ token.depthAfter depth ≤ depthLimit then
          (readAll? (token.depthAfter depth) after).map (token :: ·)
        else none
termination_by cs.length
decreasing_by
  · simp
  · have := (List.dropWhile_suffix (l := rest) fun c => !isLineEnd c).length_le
    simp only [List.length_cons]
    omega
  · simp
  · simp
  · simp only [List.length_cons, List.length_tail]
    omega
  · exact _h.1

end Token

inductive Shape where
  | number (isImaginary isSigned : Bool)
  | scalar
  | tuple (isHashable : Bool)
  /-- A set or a table, which is no member of a set. -/
  | collection
  /-- A real number with an imaginary one added. -/
  | complex
deriving DecidableEq, Repr

def Shape.isHashable : Shape → Bool
  | tuple isHashable => isHashable
  | collection => false
  | _ => true

/-- Quoted texts that follow each other make one if they are of one kind. -/
def afterQuotedRun? (isBytes : Bool) : List Token → Option (List Token)
  | .quoted other :: rest => if other = isBytes then afterQuotedRun? isBytes rest else none
  | rest => some rest

mutual

def value? : (fuel : Nat) → List Token → Option (Shape × List Token)
  | 0, _ => none
  | fuel + 1, ts => do
    let (left, rest) ← term? fuel ts
    match left, rest with
    | .number false _, .sign :: rest => match ← term? fuel rest with
      | (.number true false, rest) => return (.complex, rest)
      | _ => none
    | _, _ => return (left, rest)

def term? : (fuel : Nat) → List Token → Option (Shape × List Token)
  | 0, _ => none
  | _, [] => none
  | fuel + 1, token :: rest =>
    match token, rest with
    | .number isImaginary, rest => some (.number isImaginary false, rest)
    | .quoted isBytes, rest => (afterQuotedRun? isBytes rest).map fun rest => (.scalar, rest)
    | .constant, rest => some (.scalar, rest)
    | .setName, .openParenthesis :: .closeParenthesis :: rest => some (.collection, rest)
    | .sign, rest => match term? fuel rest with
      | some (.number isImaginary false, rest) => some (.number isImaginary true, rest)
      | _ => none
    | .openParenthesis, .closeParenthesis :: rest => some (.tuple true, rest)
    | .openParenthesis, rest => do
      match ← value? fuel rest with
      | (first, .closeParenthesis :: rest) => return (first, rest)
      | (first, .comma :: rest) =>
        let (others, rest) ← values? fuel .closeParenthesis rest
        return (.tuple ((first :: others).all Shape.isHashable), rest)
      | _ => none
    | .openBrace, .closeBrace :: rest => some (.collection, rest)
    | .openBrace, rest => do
      match ← value? fuel rest with
      | (key, .colon :: rest) => return (.collection, ← afterEntry? fuel key rest)
      | (first, .closeBrace :: rest) =>
        if first.isHashable then return (.collection, rest) else none
      | (first, .comma :: rest) =>
        let (others, rest) ← values? fuel .closeBrace rest
        if (first :: others).all Shape.isHashable then return (.collection, rest) else none
      | _ => none
    | _, _ => none

/-- The values after a comma, up to a closing bracket. -/
def values? : (fuel : Nat) → (closing : Token) → List Token → Option (List Shape × List Token)
  | 0, _, _ => none
  | fuel + 1, closing, ts => do
    if ts.head? = some closing then return ([], ts.tail)
    let (first, rest) ← value? fuel ts
    if rest.head? = some closing then return ([first], rest.tail)
    if rest.head? = some .comma then
      let (others, rest) ← values? fuel closing rest.tail
      return (first :: others, rest)
    none

/-- What follows a table, from the value of an entry on. -/
def afterEntry? : (fuel : Nat) → (key : Shape) → List Token → Option (List Token)
  | 0, _, _ => none
  | fuel + 1, key, ts => do
    if !key.isHashable then none
    match ← value? fuel ts with
    | (_, .closeBrace :: rest) => return rest
    | (_, .comma :: .closeBrace :: rest) => return rest
    | (_, .comma :: rest) => match ← value? fuel rest with
      | (key, .colon :: rest) => afterEntry? fuel key rest
      | _ => none
    | _ => none

end

/-- A text is a value, or several with commas between them. -/
def isValue (t : Text) : Bool :=
  match t.toChars?.bind (Token.readAll? 0) with
  | none | some [] => false
  | some tokens =>
    let tokens := .openParenthesis :: tokens ++ [.closeParenthesis]
    ((term? (2 * tokens.length) tokens).map Prod.snd) == some []

/-- What has to be a value: the parentheses after the name of a handler, or everything if no name
comes first. A name alone asks for nothing. -/
def valuesOf? (parameters : Text) : Option Text :=
  let isNamePart (c : CodePoint) : Bool := Text.isWordPoint c || c == .char '.'
  let rest := parameters.dropWhile isNamePart
  if rest.isEmpty then none
  else if rest.head? = some (.char '(') ∧ rest.getLast? = some (.char ')') ∧
    CodePoint.char '\n' ∉ rest then some rest
  else some parameters

def areWellFormed (parameters : Text) : Bool :=
  (valuesOf? (Text.trimWhile Text.isSpacing parameters)).all isValue

end ImportStubs.Console.Markup.Parameters
