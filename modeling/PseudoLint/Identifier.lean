import PseudoLint.Text.WordChar

/-! # Names and words

A name is made of ASCII letters, digits and underscores and does not start with a digit. In a
line, names are found between word boundaries, so a run of word characters that holds a letter of
another script is no name. A strict name starts with a letter.
-/

namespace PseudoLint

/-- Whether a character can stand inside a name. -/
def isNameChar (c : Char) : Bool :=
  isAsciiLetter c || isAsciiDigit c || c == '_'

/-- Whether a character can begin a name. -/
def isNameStart (c : Char) : Bool :=
  isAsciiLetter c || c == '_'

def isName : Text → Bool
  | [] => false
  | c :: rest => isNameStart c && rest.all isNameChar

def isStrictName : Text → Bool
  | [] => false
  | c :: rest => isAsciiLetter c && rest.all isNameChar

/-- Whether a text is made of capital ASCII letters only, and of at least one. -/
def isAllCapitals (text : Text) : Bool :=
  !text.isEmpty && text.all fun c => 0x41 ≤ c.toNat && c.toNat ≤ 0x5A

/-- A text without one line feed at its end. -/
def dropFinalNewline (text : Text) : Text :=
  if text.getLast? == some '\n' then text.dropLast else text

def beginsWord : Text → Bool
  | [] => false
  | c :: _ => isWordChar c

/-- The maximal runs of word characters of a text. -/
def wordRuns (text : Text) : List Text :=
  text.runs (!isWordChar ·)

/-- A name in its line: the text to its left, nearest character first, and the text to its
right. -/
structure NameUse where
  left : Text
  name : Text
  right : Text
deriving DecidableEq, Repr

/-- The names that stand between word boundaries in a text that follows `left`. -/
def nameUsesAfter : (left : Text) → Text → List NameUse
  | _, [] => []
  | left, c :: rest =>
    let others := nameUsesAfter (c :: left) rest
    if isNameStart c && !beginsWord left then
      let right := rest.dropWhile isNameChar
      if beginsWord right then others
      else ⟨left, c :: rest.takeWhile isNameChar, right⟩ :: others
    else others

def nameUses (text : Text) : List NameUse :=
  nameUsesAfter [] text

def names (text : Text) : List Text :=
  (nameUses text).map (·.name)

/-- The text after the first occurrence of `word` between word boundaries. `inWord` says whether a
word character stands to the left. -/
def afterWordFrom (word : Text) : (inWord : Bool) → Text → Option Text
  | _, [] => none
  | inWord, c :: rest =>
    let right := (c :: rest).drop word.length
    if !inWord && word.isPrefixOf (c :: rest) && !beginsWord right then some right
    else afterWordFrom word (isWordChar c) rest

/-- The text after the first occurrence of a word between word boundaries. -/
def afterWord? (word text : Text) : Option Text :=
  afterWordFrom word false text

/-- Whether a word occurs in a text between word boundaries. -/
def hasWord (word text : Text) : Bool :=
  (afterWord? word text).isSome

end PseudoLint
