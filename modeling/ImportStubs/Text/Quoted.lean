import ImportStubs.Text
import ImportStubs.Text.Printable

/-!
# Quoted literals

A text inside a message is written between apostrophes, or between quotation marks when it holds an
apostrophe and no quotation mark. The delimiter and the backslash are escaped by a backslash; tab,
line feed and carriage return have letters; every other code point that is not printable is written
in hexadecimal, in the shortest of the widths two (`\x`), four (`\u`) and eight (`\U`) that holds
it.
-/

namespace ImportStubs.Text.Quoted

def hexDigit (n : Nat) : Char :=
  if n < 10 then Char.ofNat (0x30 + n) else Char.ofNat (0x57 + n)

/-- The last `width` hexadecimal digits of a number. -/
def hexDigits : Nat → Nat → List Char
  | 0, _ => []
  | width + 1, n => hexDigits width (n / 16) ++ [hexDigit (n % 16)]

theorem length_hexDigits (width n : Nat) : (hexDigits width n).length = width := by
  induction width generalizing n with
  | zero => rfl
  | succ width ih => simp [hexDigits, ih]

def delimiter (t : Text) : Char :=
  if t.contains (.char '\'') && !t.contains (.char '"') then '"' else '\''

/-- One code point between delimiters `q`. -/
def escape (q : Char) (c : CodePoint) : Text :=
  if c = .char q ∨ c = .char '\\' then [.char '\\', c]
  else if c = .char '\t' then ofString "\\t"
  else if c = .char '\n' then ofString "\\n"
  else if c = .char '\r' then ofString "\\r"
  else
    let n := c.value
    if Printable.isPrintable n then [c]
    else if n < 0x100 then ofChars ('\\' :: 'x' :: hexDigits 2 n)
    else if n < 0x10000 then ofChars ('\\' :: 'u' :: hexDigits 4 n)
    else ofChars ('\\' :: 'U' :: hexDigits 8 n)

/-- The literal of a text. -/
def quote (t : Text) : Text :=
  let q := delimiter t
  .char q :: t.flatMap (escape q) ++ [.char q]

end ImportStubs.Text.Quoted
