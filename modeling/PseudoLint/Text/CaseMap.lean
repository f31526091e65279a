import PseudoLint.Text.WordChar
import PseudoLint.Text.CaseTable

/-! # Upper and lower case

The full case mappings of texts: one character may become several, and a capital sigma at the end
of a word becomes a final sigma. A character ends a word when, ignoring apostrophes, points,
combining marks and the like, a cased character stands before it and none follows.
-/

namespace PseudoLint

/-- The image of a code point under the first run that covers it, or the code point itself. -/
def mapCase (table : List CaseRun) (code : Nat) : Nat :=
  match table.find? (·.covers code) with
  | some run => run.image code
  | none => code

def upperChar (c : Char) : Text :=
  if c.toNat < 0x80 then
    [if 0x61 ≤ c.toNat && c.toNat ≤ 0x7A then Char.ofNat (c.toNat - 0x20) else c]
  else
    match upperExpansions.lookup c.toNat with
    | some codes => codes.map Char.ofNat
    | none => [Char.ofNat (mapCase upperRuns c.toNat)]

/-- The lower-case form of a character away from the end of a word. -/
def lowerChar (c : Char) : Text :=
  if c.toNat < 0x80 then
    [if 0x41 ≤ c.toNat && c.toNat ≤ 0x5A then Char.ofNat (c.toNat + 0x20) else c]
  else if c == 'İ' then ['i', '\u0307']
  else [Char.ofNat (mapCase lowerRuns c.toNat)]

/-- Whether a character has case and is not ignored in finding the end of a word. -/
def isCased (c : Char) : Bool :=
  if c.toNat < 0x80 then isAsciiLetter c else inRanges casedRanges c.toNat

/-- Whether a character is ignored in finding the end of a word. -/
def isCaseIgnorable (c : Char) : Bool :=
  if c.toNat < 0x80 then c == '\'' || c == '.' || c == ':' || c == '^' || c == '\u0060'
  else inRanges caseIgnorableRanges c.toNat

/-- Whether the nearest character that is not ignored has case. -/
def casedFirst (text : Text) : Bool :=
  match text.dropWhile isCaseIgnorable with
  | [] => false
  | c :: _ => isCased c

namespace Text

def upper (text : Text) : Text :=
  text.flatMap upperChar

/-- The lower-case form of a text that follows `left`, whose nearest character comes first. -/
def lowerAfter : (left : Text) → Text → Text
  | _, [] => []
  | left, c :: rest =>
    if c == 'Σ' && casedFirst left && !casedFirst rest then 'ς' :: lowerAfter (c :: left) rest
    else lowerChar c ++ lowerAfter (c :: left) rest

def lower (text : Text) : Text :=
  lowerAfter [] text

end Text

end PseudoLint
