import PseudoLint.Text.Basic

/-! # White space

The blank characters are the Unicode white space together with the four information separators
U+001C to U+001F. Zero-width characters and the byte order mark are not blank. Trimming and
splitting into words are defined through this one class.
-/

namespace PseudoLint

/-- Closed ranges of the blank characters beyond ASCII. -/
def blankRanges : List (Nat × Nat) :=
  [(0x85, 0x85), (0xA0, 0xA0), (0x1680, 0x1680), (0x2000, 0x200A), (0x2028, 0x2029),
    (0x202F, 0x202F), (0x205F, 0x205F), (0x3000, 0x3000)]

def isBlank (c : Char) : Bool :=
  if c.toNat < 0x80 then
    (0x09 ≤ c.toNat && c.toNat ≤ 0x0D) || (0x1C ≤ c.toNat && c.toNat ≤ 0x20)
  else inRanges blankRanges c.toNat

namespace Text

def trimStart (text : Text) : Text :=
  text.dropWhile isBlank

def trimEnd (text : Text) : Text :=
  (text.reverse.dropWhile isBlank).reverse

def trim (text : Text) : Text :=
  trimEnd (trimStart text)

def words (text : Text) : List Text :=
  runs isBlank text

end Text

end PseudoLint
