import ImportStubs.Number.Binary64.Places
import ImportStubs.Template.Error
import ImportStubs.Template.Piece
import ImportStubs.Value

/-!
# Message templates

Each directive of a template is filled in with an argument. Arguments come in order, or by name from
a table. A template that does not fit its arguments has no text but a fault.
-/

namespace ImportStubs.Template

/-- A converted argument: what stands before the fill and what stands after it. -/
structure Converted where
  lead : Text := []
  body : Text
  /-- Zeros may fill it up. -/
  isNumber : Bool := false

def signText (flags : Flags) (negative : Bool) : Text :=
  if negative then "-" else if flags.plus then "+" else if flags.blank then " " else ""

def memoryLimit : Nat := 0x80000000

def fill (flags : Flags) (width : Nat) (c : Converted) : Except Error Text :=
  let missing := width - (c.lead.length + c.body.length)
  if memoryLimit ≤ width then .error .outOfMemory
  else if flags.left then .ok (c.lead ++ c.body ++ List.replicate missing (CodePoint.char ' '))
  else if flags.zero && c.isNumber then
    .ok (c.lead ++ List.replicate missing (CodePoint.char '0') ++ c.body)
  else .ok (List.replicate missing (CodePoint.char ' ') ++ c.lead ++ c.body)

def integerOf? : Value → Option Int
  | .int n => some n
  | .bool b => some (if b then 1 else 0)
  | _ => none

def integral (v : Value) : Except Error Int :=
  match integerOf? v with
  | some n => .ok n
  | none => .error .unsuitable

/-- The integer that an argument is, or a number with its fraction cut off. -/
def truncated : Value → Except Error Int
  | .float .nan => .error .notANumber
  | .float x => match x.truncate? with
    | some n => .ok n
    | none => .error .infinite
  | v => integral v

/-- Integers take that many digits at most. -/
def integerPrecisionLimit : Nat := 0x7FFFFFFC

def integer (flags : Flags) (precision : Option Nat) (radix : Nat) (letters : LetterCase)
    (mark : Text) (n : Int) : Except Error Converted :=
  let digits := Radix.digits radix letters n.natAbs
  if precision.any (integerPrecisionLimit < ·) then .error .integerPrecision
  else if radix = 10 ∧ !Numeral.isShowable n then .error .tooManyDigits
  else .ok
    { lead := signText flags (n < 0) ++ (if flags.alternate then mark else [])
      body := Text.ofChars (List.replicate (precision.getD 0 - digits.length) '0' ++ digits)
      isNumber := true }

/-- The floating-point number that an argument is, or the one next to an integer. -/
def floating : Value → Except Error Binary64
  | .float x => .ok x
  | v => do match Binary64.ofInt (← integral v) with
    | .infinite _ => throw .beyondFloat
    | x => return x

def float (flags : Flags) (precision : Option Nat) (conversion : Char) (x : Binary64) : Converted :=
  let capital (cs : List Char) : Text :=
    Text.ofChars (if conversion.isUpper then cs.map Char.toUpper else cs)
  match x with
  | .nan => { lead := signText flags false, body := capital ['n', 'a', 'n'], isNumber := true }
  | .infinite negative =>
    { lead := signText flags negative, body := capital ['i', 'n', 'f'], isNumber := true }
  | .finite negative significand exponent =>
    let (num, den) := Binary64.quotient significand exponent
    let places := precision.getD 6
    let layout := conversion.toLower
    let body :=
      if layout = 'f' then Binary64.fixedPlaces flags.alternate places num den
      else if layout = 'e' then Binary64.scientific flags.alternate places num den
      else Binary64.general flags.alternate places num den
    { lead := signText flags negative, body := capital body, isNumber := true }

def asciiLiteral (v : Value) : Text :=
  v.literal.flatMap fun c =>
    let n := c.value
    if n < 0x80 then [c]
    else if n < 0x100 then Text.ofChars ('\\' :: 'x' :: Text.Quoted.hexDigits 2 n)
    else if n < 0x10000 then Text.ofChars ('\\' :: 'u' :: Text.Quoted.hexDigits 4 n)
    else Text.ofChars ('\\' :: 'U' :: Text.Quoted.hexDigits 8 n)

def character : Value → Except Error CodePoint
  | .text [c] => .ok c
  | v => do
    let n ← integral v
    match if n < 0 then none else CodePoint.ofNat? n.toNat with
    | some c => return c
    | none => throw .noCodePoint

def shown (precision : Option Nat) (v : Value) (t : Text) : Except Error Converted :=
  if v.isShowable then .ok { body := precision.elim t t.take } else .error .tooManyDigits

def convert (flags : Flags) (precision : Option Nat) (conversion : CodePoint) (position : Nat)
    (v : Value) : Except Error Converted :=
  match conversion with
  | .char 's' => shown precision v v.plain
  | .char 'r' => shown precision v v.literal
  | .char 'a' => shown precision v (asciiLiteral v)
  | .char 'd' | .char 'i' | .char 'u' => truncated v >>= integer flags precision 10 .lower []
  | .char 'x' => integral v >>= integer flags precision 16 .lower "0x"
  | .char 'X' => integral v >>= integer flags precision 16 .upper "0X"
  | .char 'o' => integral v >>= integer flags precision 8 .lower "0o"
  | .char 'c' => (character v).map fun c => { body := [c] }
  | .char c =>
    if ['e', 'E', 'f', 'F', 'g', 'G'].contains c then (floating v).map (float flags precision c)
    else .error (.unknownConversion (.char c) position)
  | c => .error (.unknownConversion c position)

/-- The arguments that are left. A named argument takes the place of all others. -/
inductive Arguments where
  | positional (values : List Value)
  | named (members : List (Text × Value)) (next : Option Value)

def Arguments.next : Arguments → Except Error (Value × Arguments)
  | positional (v :: rest) => .ok (v, positional rest)
  | named members (some v) => .ok (v, named members none)
  | _ => .error .tooFewArguments

def Arguments.select (name : Text) : Arguments → Except Error Arguments
  | named members _ => match Value.member? name members with
    | some v => .ok (named members (some v))
    | none => .error (.unknownName name)
  | positional _ => .error .unnamedArguments

def widthLimit : Nat := 0x8000000000000000

def precisionLimit : Nat := 0x80000000

/-- The value of a count, which an argument can give; the bound itself is allowed below zero. -/
def takeCount (args : Arguments) (limit : Nat) (given argument : Error) :
    Option Count → Except Error (Option Int × Arguments)
  | none => .ok (none, args)
  | some (.given n) => if n < limit then .ok (some n, args) else .error given
  | some .argument => do
    let (v, args) ← args.next
    let n ← integral v
    if -(limit : Int) ≤ n ∧ n < limit then return (some n, args) else throw argument

/-- The cells to fill up; the least width of all has no magnitude and fills nothing. -/
def widthOf (n : Int) : Nat := if n = -(widthLimit : Int) then 0 else n.natAbs

def applyDirective (d : Directive) (args : Arguments) : Except Error (Text × Arguments) := do
  let args ← match d.name with
    | some name => args.select name
    | none => pure args
  let (width, args) ← takeCount args widthLimit .width .widthArgument d.width
  let (precision, args) ← takeCount args precisionLimit .precision .precisionArgument d.precision
  match d.conversion with
  | none => throw .incomplete
  | some conversion =>
    let (v, args) ← args.next
    let flags := { d.flags with left := d.flags.left || width.any (· < 0) }
    let converted ← convert flags (precision.map Int.toNat) conversion d.position v
    return (← fill flags (widthOf (width.getD 0)) converted, args)

def apply : List Piece → Arguments → Except Error Text
  | [], .positional (_ :: _) => .error .tooManyArguments
  | [], _ => .ok []
  | .literal c :: rest, args => (apply rest args).map (c :: ·)
  | .directive d :: rest, args => do
    let (t, args) ← applyDirective d args
    return t ++ (← apply rest args)
  | .openName :: _, .named _ _ => .error .openName
  | .openName :: _, .positional _ => .error .unnamedArguments

/-- The arguments of a call: a single table with members is taken by name. -/
def argumentsOf : List Value → Arguments
  | [.table (m :: members)] => .named (m :: members) (some (.table (m :: members)))
  | values => .positional values

/-- The text of a template; without arguments it stands as it is. -/
def format (template : Text) : List Value → Except Error Text
  | [] => .ok template
  | args => apply (read template) (argumentsOf args)

end ImportStubs.Template
