import ImportStubs.Number.Radix
import ImportStubs.Text.Quoted

/-!
# Templates that do not fit

The fault of a template that does not fit its arguments is the first one met when its directives are
filled in from left to right.
-/

namespace ImportStubs.Template

inductive Error where
  /-- The template ends inside a directive. -/
  | incomplete
  /-- A name in parentheses is not closed. -/
  | openName
  /-- A directive has a name, and the arguments have none. -/
  | unnamedArguments
  | unknownName (name : Text)
  | tooFewArguments
  | tooManyArguments
  /-- The conversion takes no argument of this kind. -/
  | unsuitable
  | width
  | precision
  /-- The width that an argument gives is beyond a word of 64 bits. -/
  | widthArgument
  /-- The precision that an argument gives is beyond a word of 32 bits. -/
  | precisionArgument
  /-- A width that no memory holds. -/
  | outOfMemory
  /-- More digits are asked of an integer than it can be filled up to. -/
  | integerPrecision
  | unknownConversion (c : CodePoint) (position : Nat)
  | infinite
  | notANumber
  /-- An integer is beyond the range of floating-point numbers. -/
  | beyondFloat
  | noCodePoint
  /-- An integer is beyond the decimal limit. -/
  | tooManyDigits
deriving DecidableEq, Repr

namespace Error

/-- A conversion letter as it is shown: only ASCII stands for itself. -/
def letter (c : CodePoint) : Text := if 0x1F ≤ c.value ∧ c.value ≤ 0x7E then [c] else "?"

/-- The message, where there is one. -/
def message? : Error → Option Text
  | incomplete => some "incomplete format"
  | openName => some "incomplete format key"
  | unknownName name => some (Text.Quoted.quote name)
  | width => some "width too big"
  | precision => some "precision too big"
  | widthArgument => some "Python int too large to convert to C ssize_t"
  | precisionArgument => some "Python int too large to convert to C int"
  | outOfMemory => some []
  | integerPrecision => some "precision too large"
  | unknownConversion c position => some ("unsupported format character '" ++ letter c ++ "' (" ++
      Text.hex c.value ++ ") at index " ++ Text.ofNat position)
  | infinite => some "cannot convert float infinity to integer"
  | notANumber => some "cannot convert float NaN to integer"
  | beyondFloat => some "int too large to convert to float"
  | noCodePoint => some "%c arg not in range(0x110000)"
  | unnamedArguments | tooFewArguments | tooManyArguments | unsuitable | tooManyDigits => none

end Error
end ImportStubs.Template
