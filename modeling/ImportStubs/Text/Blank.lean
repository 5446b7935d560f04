import ImportStubs.Text

/-!
# Blanks

`isBlank` is Unicode's white space: what may surround a numeral. The layout of lines takes the four
information separators U+001C to U+001F for blanks as well, which is `isSpacing`.
-/

namespace ImportStubs.Text

def isBlank (c : CodePoint) : Bool :=
  let n := c.value
  (0x9 ≤ n && n ≤ 0xD) || n == 0x20 || n == 0x85 || n == 0xA0 || n == 0x1680 ||
    (0x2000 ≤ n && n ≤ 0x200A) || n == 0x2028 || n == 0x2029 || n == 0x202F || n == 0x205F ||
    n == 0x3000

def isSpacing (c : CodePoint) : Bool :=
  isBlank c || (0x1C ≤ c.value && c.value ≤ 0x1F)

def dropEndWhile (p : CodePoint → Bool) (t : Text) : Text := (t.reverse.dropWhile p).reverse

/-- The text without the leading and trailing code points that satisfy `p`. -/
def trimWhile (p : CodePoint → Bool) (t : Text) : Text := dropEndWhile p (t.dropWhile p)

/-- The maximal runs of code points that are no spacing. -/
def words (t : Text) : List Text :=
  (t.splitBy fun a b => isSpacing a == isSpacing b).filter fun run => !run.all isSpacing

end ImportStubs.Text
