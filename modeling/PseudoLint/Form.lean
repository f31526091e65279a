import PseudoLint.Identifier
import PseudoLint.Keyword
import PseudoLint.Numeral
import PseudoLint.Text.Blank

/-! # Forms of statements

A form is recognised at the start of a text, yields what it found and leaves the text after it.
The rules look for the first place where a form fits, or for all places from left to right that do
not overlap. Each form reads on without going back: after every part the next one is determined by
the next character that is not blank.

Some forms are recognised in capitals or small letters alike. There the dotted and dotless forms
of the letter I, the long s and the Kelvin sign count as letters too.
-/

namespace PseudoLint

/-- A form reads the start of a text and answers a value with the text it leaves. -/
abbrev Form (α : Type) := Text → Option (α × Text)

namespace Form

variable {α : Type}

/-- The value of the first place in a text at which a form fits. -/
def first? (form : Form α) : Text → Option α
  | [] => none
  | c :: rest =>
    match form (c :: rest) with
    | some (value, _) => some value
    | none => first? form rest

/-- The values of a form at all places from left to right, each taken after the one before it
ends; the first `skip` characters belong to the place before. -/
def allFrom (form : Form α) : (skip : Nat) → Text → List α
  | _, [] => []
  | skip + 1, _ :: rest => allFrom form skip rest
  | 0, c :: rest =>
    match form (c :: rest) with
    | some (value, after) => value :: allFrom form (rest.length - after.length) rest
    | none => allFrom form 0 rest

/-- The values of a form at all places of a text. -/
def all (form : Form α) (text : Text) : List α :=
  allFrom form 0 text

/-! ## Parts of forms -/

/-- The text after the given character. -/
def mark (c : Char) : Text → Option Text
  | [] => none
  | d :: rest => if d == c then some rest else none

/-- The text after the given word, spelled exactly. -/
def exactly (word text : Text) : Option Text :=
  if word.isPrefixOf text then some (text.drop word.length) else none

/-- Whether `c` is the capital letter `letter`, its small form or another letter that differs from
it only in case. -/
def sameLetter (letter c : Char) : Bool :=
  c == letter || c.toNat == letter.toNat + 0x20 || (letter == 'I' && (c == 'İ' || c == 'ı')) ||
    (letter == 'S' && c == 'ſ') || (letter == 'K' && c == '\u212A')

/-- The text after the given capital word, spelled in capitals or small letters. -/
def anyCase : (word : Text) → Text → Option Text
  | [], text => some text
  | _ :: _, [] => none
  | letter :: word, c :: rest => if sameLetter letter c then anyCase word rest else none

/-- The text after at least one blank and all that follow it. -/
def blanks : Text → Option Text
  | [] => none
  | c :: rest => if isBlank c then some (Text.trimStart rest) else none

/-- The longest non-empty stretch of characters of a class. -/
def stretch (inClass : Char → Bool) (text : Text) : Option (Text × Text) :=
  let taken := text.takeWhile inClass
  if taken.isEmpty then none else some (taken, text.dropWhile inClass)

/-- The longest name at the start of a text. -/
def name : Text → Option (Text × Text)
  | [] => none
  | c :: rest =>
    if isNameStart c then some (c :: rest.takeWhile isNameChar, rest.dropWhile isNameChar)
    else none

/-- Whether a character beyond ASCII differs from an ASCII letter only in case. -/
def isFoldedLetter (c : Char) : Bool :=
  c == 'İ' || c == 'ı' || c == 'ſ' || c == '\u212A'

/-- The longest name at the start of a text, where letters may also be those that differ from an
ASCII letter only in case. -/
def foldedName : Text → Option (Text × Text)
  | [] => none
  | c :: rest =>
    if isNameStart c || isFoldedLetter c then
      let inName (d : Char) : Bool := isNameChar d || isFoldedLetter d
      some (c :: rest.takeWhile inName, rest.dropWhile inName)
    else none

/-- The longest integer literal at the start of a text. -/
def integer (text : Text) : Option (Numeral.Literal × Text) :=
  let negative := text.head? == some '-'
  match stretch isDecimal (if negative then text.drop 1 else text) with
  | some (digits, rest) => some (⟨negative, digits⟩, rest)
  | none => none

/-! ## The forms -/

/-- An array declaration with its bounds: `DECLARE name : ARRAY[lower:upper]`. -/
def arrayDeclaration : Form (Text × Numeral.Literal × Numeral.Literal) := fun text => do
  let text ← anyCase "DECLARE" text
  let text ← blanks text
  let (name, text) ← foldedName text
  let text ← mark ':' text.trimStart
  let text ← anyCase "ARRAY" text.trimStart
  let text ← mark '[' text.trimStart
  let (lower, text) ← integer text.trimStart
  let text ← mark ':' text.trimStart
  let (upper, text) ← integer text.trimStart
  let text ← mark ']' text.trimStart
  pure ((name, lower, upper), text)

/-- The declaration of a single character variable: `DECLARE word : CHAR`, in capitals. -/
def charDeclaration : Form Unit := fun text => do
  let text ← exactly "DECLARE" text
  let text ← blanks text
  let (_, text) ← stretch isWordChar text
  let text ← mark ':' text.trimStart
  let text ← exactly "CHAR" text.trimStart
  if beginsWord text then none else pure ((), text)

def constantName : Form Text := fun text => do
  let text ← anyCase "CONSTANT" text
  let text ← blanks text
  let (name, text) ← foldedName text
  let text ← mark '=' text.trimStart
  pure (name, text)

def functionName : Form Text := fun text => do
  let text ← anyCase "FUNCTION" text
  let text ← blanks text
  foldedName text

/-- The text between the parentheses of a header: `FUNCTION word ( … )` or `PROCEDURE word ( … )`,
up to the first closing parenthesis. -/
def parameterList : Form Text := fun text => do
  let text ← (anyCase "FUNCTION" text).or (anyCase "PROCEDURE" text)
  let text ← blanks text
  let (_, text) ← stretch isWordChar text
  let text ← mark '(' text.trimStart
  let inside := text.takeWhile (· != ')')
  let text ← mark ')' (text.drop inside.length)
  pure (inside, text)

def callName : Form Text := fun text => do
  let text ← anyCase "CALL" text
  let text ← blanks text
  foldedName text

/-- The mode of `OPENFILE file FOR mode`, where the file is any stretch without blanks. -/
def fileMode : Form Text := fun text => do
  let text ← anyCase "OPENFILE" text
  let text ← blanks text
  let (_, text) ← stretch (!isBlank ·) text
  let text ← blanks text
  let text ← anyCase "FOR" text
  let text ← blanks text
  stretch isWordChar text

def lengthArgument : Form Text := fun text => do
  let text ← anyCase "LENGTH" text
  let text ← mark '(' text.trimStart
  let (name, text) ← foldedName text.trimStart
  let text ← mark ')' text.trimStart
  pure (name, text)

def arrayAccess : Form (Text × Numeral.Literal) := fun text => do
  let (name, text) ← name text
  let text ← mark '[' text
  let (index, text) ← integer text.trimStart
  let text ← mark ']' text.trimStart
  pure ((name, index), text)

/-- The name in the assignment of a string literal: `name ← "…"`. -/
def stringAssignment : Form Text := fun text => do
  let (name, text) ← name text
  let text ← mark assignArrow text.trimStart
  let text ← mark '"' text.trimStart
  let text ← mark '"' (text.dropWhile (· != '"'))
  pure (name, text)

/-- The name that an assignment at the start of a text assigns to: `name ←`. -/
def assignedName (text : Text) : Option Text := do
  let (name, text) ← name text
  let _ ← mark assignArrow text.trimStart
  pure name

/-- Whether a text begins with a name and an equals sign. -/
def beginsWithEquation (text : Text) : Bool :=
  match name text with
  | some (_, rest) => (mark '=' rest.trimStart).isSome
  | none => false

end Form

end PseudoLint
