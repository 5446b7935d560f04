import ImportStubs.Console.Style.ColorNames
import ImportStubs.Number.Numeral
import ImportStubs.Text.LowerCase
import ImportStubs.Text.Quoted

/-!
# Styles

A style definition is a list of words: attributes, each of which `not` can switch off, a colour, a
colour of the background after `on`, and a target after `link`. Later words win. Definitions with
the same effect have the same normal form, and a definition that is no style is its own normal form
in lower case, unless a number in it cannot be read.
-/

namespace ImportStubs.Console

inductive Attribute where
  | bold
  | dim
  | italic
  | underline
  | blink
  | blink2
  | reverse
  | conceal
  | strike
  | underline2
  | frame
  | encircle
  | overline
deriving DecidableEq, Repr

namespace Attribute

/-- The order of the normal form. -/
def all : List Attribute :=
  [bold, dim, italic, underline, blink, blink2, reverse, conceal, strike, underline2, frame,
    encircle, overline]

def name : Attribute → String
  | bold => "bold"
  | dim => "dim"
  | italic => "italic"
  | underline => "underline"
  | blink => "blink"
  | blink2 => "blink2"
  | reverse => "reverse"
  | conceal => "conceal"
  | strike => "strike"
  | underline2 => "underline2"
  | frame => "frame"
  | encircle => "encircle"
  | overline => "overline"

def abbreviations : List (String × Attribute) :=
  [("d", dim), ("b", bold), ("i", italic), ("u", underline), ("r", reverse), ("c", conceal),
    ("s", strike), ("uu", underline2), ("o", overline)]

def ofWord? (word : Text) : Option Attribute :=
  (all.find? fun a => word.is a.name) <|> (abbreviations.find? fun a => word.is a.1).map Prod.snd

end Attribute

/-- A component that is no number. A style that holds one is not just unknown: whatever asks for it
fails. -/
inductive UnreadableNumber where
  | empty
  /-- The digits are beyond the decimal limit. -/
  | tooLong
deriving DecidableEq, Repr

/-- The message, where there is one. -/
def UnreadableNumber.message? : UnreadableNumber → Option Text
  | empty => some "invalid literal for int() with base 10: ''"
  | tooLong => none

inductive ColorError where
  | unknown
  | numberTooLarge
  | componentCount
  | componentTooLarge
  | component (cause : UnreadableNumber)
deriving DecidableEq, Repr

def ColorError.message (word : Text) : ColorError → Text
  | unknown => Text.Quoted.quote word ++ " is not a valid color"
  | numberTooLarge => "color number must be <= 255 in " ++ Text.Quoted.quote (Text.lower word)
  | componentCount => "expected three components in " ++ Text.Quoted.quote word
  | componentTooLarge => "color components must be <= 255 in " ++ Text.Quoted.quote word
  | component cause => cause.message?.getD []

namespace Color

def isHexDigit (c : CodePoint) : Bool :=
  match c with
  | .char c => (Numeral.digitValue? 16 c).isSome
  | .surrogate _ => false

/-- What stands between a name with an opening parenthesis and a closing one at the end. -/
def arguments? (name : String) (word : Text) : Option Text :=
  let opening : Text := Text.ofString (name ++ "(")
  if opening.isPrefixOf word ∧ word.getLast? = some (.char ')') then
    some ((word.drop opening.length).dropLast)
  else none

/-- The parts between the commas. -/
def components (t : Text) : List Text := t.splitOn (.char ',')

/-- The number that digits spell. -/
def component (digits : Text) : Except ColorError Int :=
  if digits.isEmpty then .error (.component .empty)
  else match Numeral.parseDecimal? digits with
    | some n => .ok n
    | none => .error (.component .tooLong)

def checkComponents (parts : List Text) : Except ColorError Unit := do
  if parts.length ≠ 3 then throw .componentCount
  let numbers ← parts.mapM component
  if numbers.all (· ≤ 255) then return () else throw .componentTooLarge

/-- A colour is named, or has six hexadecimal digits, a number in the palette, or three components.
-/
def check (word : Text) : Except ColorError Unit :=
  if word.is "default" ∨ colorNames.any (word.is ·) then .ok ()
  else if word.head? = some (.char '#') ∧ word.length = 7 ∧ (word.drop 1).all isHexDigit then .ok ()
  else
    match arguments? "color" word, arguments? "rgb" word with
    | some number, _ =>
      let isAscii := number.all fun c => 0x30 ≤ c.value && c.value ≤ 0x39
      if number.isEmpty ∨ 3 < number.length ∨ !isAscii then .error .unknown
      else if (Numeral.parseDecimal? number).any (· ≤ 255) then .ok () else .error .numberTooLarge
    | none, some list =>
      if !list.isEmpty ∧ list.all fun c => c = .char ',' ∨ (Text.Digit.value? c.value).isSome then
        checkComponents (components list)
      else .error .unknown
    | none, none => .error .unknown

end Color

inductive StyleError where
  | missingBackground
  | background (word : Text) (error : ColorError)
  | notAttribute (word : Text)
  | missingTarget
  | color (word : Text) (error : ColorError)
deriving DecidableEq, Repr

/-- The component that makes whatever asks for the style fail, if there is one. -/
def StyleError.unreadable? : StyleError → Option UnreadableNumber
  | color _ (.component cause) | background _ (.component cause) => some cause
  | _ => none

def StyleError.message : StyleError → Text
  | missingBackground => "color expected after 'on'"
  | background word error =>
    "unable to parse " ++ Text.Quoted.quote word ++ " as background color; " ++ error.message word
  | notAttribute word => "expected style attribute after 'not', found " ++ Text.Quoted.quote word
  | missingTarget => "URL expected after 'link'"
  | color word error =>
    "unable to parse " ++ Text.Quoted.quote word ++ " as color; " ++ error.message word

structure Style where
  attributes : Attribute → Option Bool := fun _ => none
  color : Option Text := none
  background : Option Text := none
  link : Option Text := none

namespace Style

def setAttribute (a : Attribute) (on : Bool) (s : Style) : Style :=
  { s with attributes := fun b => if b = a then some on else s.attributes b }

/-- Continues a style by the words of a definition. -/
def readWords (s : Style) : List Text → Except StyleError Style
  | [] => .ok s
  | first :: rest =>
    let word := Text.lower first
    if word.is "on" then
      match rest with
      | [] => .error .missingBackground
      | color :: rest =>
        match Color.check (Text.lower color) with
        | .error e => .error (.background color e)
        | .ok () => readWords { s with background := some (Text.lower color) } rest
    else if word.is "not" then
      match rest with
      | [] => .error (.notAttribute [])
      | name :: rest =>
        match Attribute.ofWord? name with
        | none => .error (.notAttribute name)
        | some a => readWords (s.setAttribute a false) rest
    else if word.is "link" then
      match rest with
      | [] => .error .missingTarget
      | target :: rest => readWords { s with link := some target } rest
    else
      match Attribute.ofWord? word with
      | some a => readWords (s.setAttribute a true) rest
      | none =>
        match Color.check word with
        | .error e => .error (.color word e)
        | .ok () => readWords { s with color := some word } rest

def parse (definition : Text) : Except StyleError Style :=
  if (Text.trimWhile Text.isSpacing definition).is "none" then .ok {}
  else readWords {} (Text.words definition)

/-- The words of the normal form. -/
def toWords (s : Style) : List Text :=
  let attributes := Attribute.all.flatMap fun a =>
    match s.attributes a with
    | some true => [Text.ofString a.name]
    | some false => ["not", Text.ofString a.name]
    | none => []
  let marked (mark : String) (word : Option Text) : List Text :=
    word.toList.flatMap fun w => [Text.ofString mark, w]
  attributes ++ s.color.toList ++ marked "on" s.background ++ marked "link" s.link

def toText (s : Style) : Text :=
  match s.toWords with
  | [] => "none"
  | words => Text.join " " words

def normalize (definition : Text) : Except UnreadableNumber Text :=
  match parse definition with
  | .ok s => .ok s.toText
  | .error e => match e.unreadable? with
    | some cause => .error cause
    | none => .ok (Text.lower (Text.trimWhile Text.isSpacing definition))

end Style
end ImportStubs.Console
