import ImportStubs.Number.Numeral

/-!
# Quoted text

TOML has four notations for text: between quotation marks with escapes or between apostrophes
without, each on one line or between triple delimiters over several. Controls other than the tab are
not allowed as they stand, but the long notations may hold line feeds. Every reader gives the
characters and what follows the closing delimiter.
-/

namespace ImportStubs.Toml

def isControl (c : Char) : Bool := (c.toNat < 0x20 && c != '\t') || c.toNat == 0x7F

def isIllegal (long : Bool) (c : Char) : Bool := isControl c && !(long && c == '\n')

def isBlank (c : Char) : Bool := c == ' ' || c == '\t'

def skipBlanks (cs : List Char) : List Char := cs.dropWhile isBlank

def hexCharacter? (digits : List Char) : Option Char := do
  let values ← digits.mapM (Numeral.digitValue? 16)
  let n := Numeral.ofDigits 16 values
  if h : n.isValidChar then some (Char.ofNatAux n h) else none

/-- What a character after a backslash stands for. -/
def simpleEscape? (c : Char) : Option Char :=
  if c = 'b' then some '\x08'
  else if c = 't' then some '\t'
  else if c = 'n' then some '\n'
  else if c = 'f' then some '\x0c'
  else if c = 'r' then some '\r'
  else if c = '"' ∨ c = '\\' then some c
  else none

/-- A line end after optional blanks, and all blanks and line ends after it: what a backslash at the
end of a line removes. The end of the document counts as a line end. -/
def lineContinuation? (cs : List Char) : Option (List Char) :=
  match skipBlanks cs with
  | [] => some []
  | '\n' :: rest => some (rest.dropWhile fun c => isBlank c || c == '\n')
  | _ => none

def escape? (long : Bool) : List Char → Option (List Char × List Char)
  | 'u' :: rest =>
    if rest.length < 4 then none else (hexCharacter? (rest.take 4)).map fun c => ([c], rest.drop 4)
  | 'U' :: rest =>
    if rest.length < 8 then none else (hexCharacter? (rest.take 8)).map fun c => ([c], rest.drop 8)
  | c :: rest =>
    if long && (isBlank c || c == '\n') then
      (lineContinuation? (c :: rest)).map fun rest => ([], rest)
    else (simpleEscape? c).map fun c => ([c], rest)
  | [] => none

def basicBody (long : Bool) (cs : List Char) : Option (List Char × List Char) :=
  match cs with
  | [] => none
  | '\\' :: rest =>
    match escape? long rest with
    | none => none
    | some (characters, after) =>
      if _h : after.length ≤ rest.length then
        (basicBody long after).map fun (body, rest) => (characters ++ body, rest)
      else none
  | c :: rest =>
    if c = '"' ∧ ¬ long then some ([], rest)
    else if c = '"' ∧ rest.take 2 = ['"', '"'] then some ([], rest.drop 2)
    else if isIllegal long c then none
    else (basicBody long rest).map fun (body, rest) => (c :: body, rest)
termination_by cs.length
decreasing_by all_goals simp only [List.length_cons]; omega

def literalBody (long : Bool) : List Char → Option (List Char × List Char)
  | [] => none
  | c :: rest =>
    if c = '\'' ∧ ¬ long then some ([], rest)
    else if c = '\'' ∧ rest.take 2 = ['\'', '\''] then some ([], rest.drop 2)
    else if isIllegal long c then none
    else (literalBody long rest).map fun (body, rest) => (c :: body, rest)

/-- Up to two delimiters directly after the closing ones belong to the text. -/
def withExtraDelimiters (delimiter : Char) (read : List Char × List Char) : List Char × List Char :=
  let extra := (read.2.take 2).takeWhile (· == delimiter)
  (read.1 ++ extra, read.2.drop extra.length)

/-- Text over several lines; a line end directly after the opening delimiters is no part of it. -/
def longText (delimiter : Char) (body : List Char → Option (List Char × List Char))
    (cs : List Char) : Option (List Char × List Char) :=
  let cs := match cs with
    | '\n' :: rest => rest
    | cs => cs
  (body cs).map (withExtraDelimiters delimiter)

def quoted? : List Char → Option (List Char × List Char)
  | '"' :: '"' :: '"' :: rest => longText '"' (basicBody true) rest
  | '"' :: rest => basicBody false rest
  | '\'' :: '\'' :: '\'' :: rest => longText '\'' (literalBody true) rest
  | '\'' :: rest => literalBody false rest
  | _ => none

def isBare (c : Char) : Bool := c.isAlphanum || c == '-' || c == '_'

/-- One part of a key: bare characters, or quoted text on one line. -/
def keyPart? : List Char → Option (Text × List Char)
  | '"' :: rest => (basicBody false rest).map fun (part, rest) => (Text.ofChars part, rest)
  | '\'' :: rest => (literalBody false rest).map fun (part, rest) => (Text.ofChars part, rest)
  | cs =>
    let part := cs.takeWhile isBare
    if part.isEmpty then none else some (Text.ofChars part, cs.dropWhile isBare)

abbrev Key := List Text

/-- Key parts with points between them, and the blanks around. -/
def key? (cs : List Char) : Option (Key × List Char) :=
  match keyPart? cs with
  | none => none
  | some (part, rest) =>
    match skipBlanks rest with
    | '.' :: next =>
      if _h : (skipBlanks next).length < cs.length then
        (key? (skipBlanks next)).map fun (parts, rest) => (part :: parts, rest)
      else none
    | rest => some ([part], rest)
termination_by cs.length

end ImportStubs.Toml
