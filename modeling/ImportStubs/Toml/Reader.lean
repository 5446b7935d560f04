import ImportStubs.Text.Utf8
import ImportStubs.Toml.Document
import ImportStubs.Toml.Scalar

/-!
# Reading TOML

A document is a sequence of lines, each with a header, an assignment or nothing, and perhaps a
comment. Statements take effect one after the other, so the first fault of a document is the one
reported. A decimal integer of more than 4300 digits is a fault of its own. As in JSON, values may
be nested to any depth.
-/

namespace ImportStubs.Toml

inductive Fault where
  | malformed
  | longNumber
deriving DecidableEq, Repr

def skipLayout (inComment : Bool) : List Char → Option (List Char)
  | [] => some []
  | c :: rest =>
    if c = '\n' then skipLayout false rest
    else if inComment then if isControl c then none else skipLayout true rest
    else if isBlank c then skipLayout false rest
    else if c = '#' then skipLayout true rest
    else some (c :: rest)

/-- What follows the end of a line, before which only blanks and a comment may stand. -/
def lineEnd? (cs : List Char) : Option (List Char) :=
  match skipBlanks cs with
  | '#' :: rest =>
    let comment := rest.takeWhile (· != '\n')
    if comment.any isControl then none else some ((rest.dropWhile (· != '\n')).drop 1)
  | '\n' :: rest => some rest
  | [] => some []
  | _ => none

private def require {α : Type} : Option α → Except Fault α
  | some x => .ok x
  | none => .error .malformed

def readScalar (cs : List Char) : Except Fault (Value × List Char) :=
  match cs with
  | '"' :: _ | '\'' :: _ =>
    (require (quoted? cs)).map fun (t, rest) => (.text (Text.ofChars t), rest)
  | 't' :: 'r' :: 'u' :: 'e' :: rest => .ok (.bool true, rest)
  | 'f' :: 'a' :: 'l' :: 's' :: 'e' :: rest => .ok (.bool false, rest)
  | _ =>
    match moment? cs with
    | some (date, moment, rest) =>
      if date.isValid then .ok (.moment moment, rest) else .error .malformed
    | none =>
      match clock? cs with
      | some (time, rest) => .ok (.moment (.time time), rest)
      | none =>
        match radixInteger? cs with
        | some (n, rest) => .ok (.int n, rest)
        | none =>
          match decimal? cs with
          | some (d, rest) =>
            if d.fraction.isSome ∨ d.exponent.isSome then .ok (.float d.toFloat, rest)
            else if d.whole.length ≤ Numeral.decimalLimit then .ok (.int d.toInt, rest)
            else .error .longNumber
          | none => (require (special? cs)).map fun (x, rest) => (.float x, rest)

mutual

/-- A value at the front. What is left is shorter each time, which the reader checks as it goes. -/
def readValue (cs : List Char) : Except Fault (Value × List Char) :=
  match cs with
  | '[' :: rest => (readItems rest).map fun (items, rest) => (.list items, rest)
  | '\x7b' :: rest =>
    match skipBlanks rest with
    | '\x7d' :: rest => .ok (.table [], rest)
    | after =>
      if _h : after.length ≤ rest.length then
        (readPairs {} after).map fun (members, rest) => (.table members, rest)
      else .error .malformed
  | cs => readScalar cs
termination_by 2 * cs.length
decreasing_by all_goals simp only [List.length_cons]; omega

def readItems (cs : List Char) : Except Fault (List Value × List Char) :=
  match skipLayout false cs with
  | none => .error .malformed
  | some (']' :: rest) => .ok ([], rest)
  | some start =>
    if _h : start.length ≤ cs.length then
      match readValue start with
      | .error e => .error e
      | .ok (v, rest) =>
        match skipLayout false rest with
        | some (']' :: rest) => .ok ([v], rest)
        | some (',' :: rest) =>
          if _h : rest.length < cs.length then
            (readItems rest).map fun (items, rest) => (v :: items, rest)
          else .error .malformed
        | _ => .error .malformed
    else .error .malformed
termination_by 2 * cs.length + 1
decreasing_by all_goals omega

def readPairs (table : InlineTable) (cs : List Char) : Except Fault (Members × List Char) :=
  match key? cs with
  | some (key, '=' :: rest) =>
    if _h : (skipBlanks rest).length < cs.length then
      match readValue (skipBlanks rest) with
      | .error e => .error e
      | .ok (v, rest) =>
        match table.assign key v, skipBlanks rest with
        | some table, '\x7d' :: rest => .ok (table.members, rest)
        | some table, ',' :: rest =>
          if _h : (skipBlanks rest).length < cs.length then readPairs table (skipBlanks rest)
          else .error .malformed
        | _, _ => .error .malformed
    else .error .malformed
  | _ => .error .malformed
termination_by 2 * cs.length + 1
decreasing_by all_goals omega

end

def readStatement (d : Document) (cs : List Char) : Except Fault (Document × List Char) :=
  match cs with
  | '[' :: '[' :: rest => do
    let (key, rest) ← require (key? (skipBlanks rest))
    let d ← require (d.openItem key)
    match rest with
    | ']' :: ']' :: rest => return (d, rest)
    | _ => .error .malformed
  | '[' :: rest => do
    let (key, rest) ← require (key? (skipBlanks rest))
    let d ← require (d.openTable key)
    match rest with
    | ']' :: rest => return (d, rest)
    | _ => .error .malformed
  | cs => do
    let (key, rest) ← require (key? cs)
    match rest with
    | '=' :: rest =>
      let (v, rest) ← readValue (skipBlanks rest)
      return (← require (d.assign key v), rest)
    | _ => .error .malformed

/-- The lines of a document, taking effect in order. -/
def readLines (d : Document) (cs : List Char) : Except Fault Document :=
  match skipBlanks cs with
  | [] => .ok d
  | start =>
    if start.head? = some '\n' ∨ start.head? = some '#' then
      match lineEnd? start with
      | none => .error .malformed
      | some rest => if _h : rest.length < cs.length then readLines d rest else .error .malformed
    else
      match readStatement d start with
      | .error e => .error e
      | .ok (d, rest) =>
        match lineEnd? rest with
        | none => .error .malformed
        | some rest => if _h : rest.length < cs.length then readLines d rest else .error .malformed
termination_by cs.length

/-- A carriage return before a line feed is no part of the document. -/
def normalizeLines : List Char → List Char
  | '\r' :: '\n' :: rest => '\n' :: normalizeLines rest
  | c :: rest => c :: normalizeLines rest
  | [] => []

def read (cs : List Char) : Except Fault Members :=
  (readLines {} (normalizeLines cs)).map (·.members)

end ImportStubs.Toml
