import PseudoLint.Json.Basic
import PseudoLint.Numeral

/-! # Reading JSON

The reader accepts one value between optional white space. It also takes `NaN` and the two
infinities as numbers, lets the last of several members with one key win, and refuses control
characters inside strings. A refusal says what was expected and where: the place is given by the
text that was still to be read. An escaped surrogate without its partner stands for no character,
so a string that holds one is no text; where nothing else is wrong, that is a fault of its own.
-/

namespace PseudoLint.Json

inductive Complaint where
  | value
  | propertyName
  | colon
  | comma
  | extraData
  | unterminatedString
  | controlCharacter
  | badEscape
  | badUnicodeEscape
  | byteOrderMark
deriving DecidableEq, Repr

def Complaint.message : Complaint → Text
  | .value => "Expecting value"
  | .propertyName => "Expecting property name enclosed in double quotes"
  | .colon => "Expecting ':' delimiter"
  | .comma => "Expecting ',' delimiter"
  | .extraData => "Extra data"
  | .unterminatedString => "Unterminated string starting at"
  | .controlCharacter => "Invalid control character at"
  | .badEscape => "Invalid \\escape"
  | .badUnicodeEscape => "Invalid \\uXXXX escape"
  | .byteOrderMark => "Unexpected UTF-8 BOM (decode using utf-8-sig)"

/-- Why a text could not be read: a complaint together with the text from that place on, an integer
literal with too many digits, or a string that is no text. -/
inductive ReadFault where
  | malformed (complaint : Complaint) (rest : Text)
  | tooManyDigits (count : Nat)
  | loneSurrogate
deriving DecidableEq, Repr

/-- The text after its leading spaces, tabs and line ends. -/
def skipSpace (text : Text) : Text :=
  text.dropWhile fun c => c == ' ' || c == '\t' || c == '\n' || c == '\r'

def hexValue? (c : Char) : Option Nat :=
  if isAsciiDigit c then some (c.toNat - 0x30)
  else if 0x61 ≤ c.toNat && c.toNat ≤ 0x66 then some (c.toNat - 0x57)
  else if 0x41 ≤ c.toNat && c.toNat ≤ 0x46 then some (c.toNat - 0x37)
  else none

/-- The number that four hexadecimal digits at the start of a text give, and the text after them.
At least one more character has to follow. -/
def unit? : Text → Option (Nat × Text)
  | a :: b :: c :: d :: next :: rest => do
    let a ← hexValue? a
    let b ← hexValue? b
    let c ← hexValue? c
    let d ← hexValue? d
    pure (((a * 16 + b) * 16 + c) * 16 + d, next :: rest)
  | _ => none

/-- The character that a one-letter escape stands for. -/
def escaped? : Char → Option Char
  | '"' => some '"'
  | '\\' => some '\\'
  | '/' => some '/'
  | 'b' => some '\u0008'
  | 'f' => some '\u000C'
  | 'n' => some '\n'
  | 'r' => some '\r'
  | 't' => some '\t'
  | _ => none

/-- The second half of a pair of surrogates at the start of a text, and the text after it. -/
def lowSurrogate? : Text → Option (Nat × Text)
  | '\\' :: 'u' :: rest =>
    match unit? rest with
    | some (low, rest) => if 0xDC00 ≤ low && low ≤ 0xDFFF then some (low, rest) else none
    | none => none
  | _ => none

/-- The character of a unit of 16 bits and the text after it. A first surrogate takes the second
one with it; a surrogate that stands alone is no character. -/
def unitChar? (unit : Nat) (rest : Text) : Option Char × Text :=
  if 0xD800 ≤ unit && unit ≤ 0xDBFF then
    match lowSurrogate? rest with
    | some (low, rest) =>
      (some (Char.ofNat (0x10000 + (unit - 0xD800) * 0x400 + (low - 0xDC00))), rest)
    | none => (none, rest)
  else if 0xDC00 ≤ unit && unit ≤ 0xDFFF then (none, rest)
  else (some (Char.ofNat unit), rest)

/-- Whether a surrogate that stands alone is escaped in a text. `fuel` bounds the number of
characters. -/
def hasLoneSurrogate : (fuel : Nat) → Text → Bool
  | 0, _ => false
  | fuel + 1, text =>
    match text with
    | [] => false
    | '\\' :: 'u' :: rest =>
      match unit? rest with
      | some (unit, rest) =>
        match unitChar? unit rest with
        | (some _, rest) => hasLoneSurrogate fuel rest
        | (none, _) => true
      | none => hasLoneSurrogate fuel rest
    | '\\' :: _ :: rest => hasLoneSurrogate fuel rest
    | _ :: rest => hasLoneSurrogate fuel rest

/-- Reads a string from after its opening quote. `opening` is the text from that quote on, `taken`
the characters read so far, latest first, and `fuel` bounds the number of characters. The
replacement character keeps the place of a surrogate that stands alone. -/
def readString (opening : Text) : (fuel : Nat) → (taken : Text) → Text →
    Except ReadFault (Text × Text)
  | 0, _, _ => .error (.malformed .unterminatedString opening)
  | fuel + 1, taken, text =>
    match text with
    | [] => .error (.malformed .unterminatedString opening)
    | '"' :: rest => .ok (taken.reverse, rest)
    | ['\\'] => .error (.malformed .unterminatedString opening)
    | '\\' :: 'u' :: rest =>
      match unit? rest with
      | some (unit, rest) =>
        let (c?, rest) := unitChar? unit rest
        readString opening fuel (c?.getD '\uFFFD' :: taken) rest
      | none => .error (.malformed .badUnicodeEscape text)
    | '\\' :: letter :: rest =>
      match escaped? letter with
      | some c => readString opening fuel (c :: taken) rest
      | none => .error (.malformed .badEscape text)
    | c :: rest =>
      if c.toNat < 0x20 then .error (.malformed .controlCharacter text)
      else readString opening fuel (c :: taken) rest

/-- The fraction at the start of a text, if a point and a digit stand there, and the rest. -/
def takeFraction (text : Text) : Text × Text :=
  match text with
  | '.' :: rest =>
    let digits := rest.takeWhile isAsciiDigit
    if digits.isEmpty then ([], text) else ('.' :: digits, rest.dropWhile isAsciiDigit)
  | _ => ([], text)

/-- The exponent at the start of a text, if a mark and a digit stand there, and the rest. -/
def takeExponent (text : Text) : Text × Text :=
  match text with
  | mark :: rest =>
    if mark == 'e' || mark == 'E' then
      let sign := (rest.take 1).filter fun c => c == '+' || c == '-'
      let digits := (rest.drop sign.length).takeWhile isAsciiDigit
      if digits.isEmpty then ([], text)
      else (mark :: sign ++ digits, (rest.drop sign.length).dropWhile isAsciiDigit)
    else ([], text)
  | [] => ([], [])

/-- Reads the longest number at the start of a text. -/
def readNumber (text : Text) : Except ReadFault (Json × Text) :=
  let negative := text.head? == some '-'
  let body := if negative then text.drop 1 else text
  let whole :=
    match body with
    | '0' :: _ => ['0']
    | _ => body.takeWhile isAsciiDigit
  if whole.isEmpty then .error (.malformed .value text)
  else
    let (fraction, rest) := takeFraction (body.drop whole.length)
    let (exponent, rest) := takeExponent rest
    if fraction.isEmpty && exponent.isEmpty then
      match (Numeral.Literal.mk negative whole).value with
      | .ok value => .ok (.int value, rest)
      | .error count => .error (.tooManyDigits count)
    else
      let sign : Text := if negative then ['-'] else []
      .ok (.float (sign ++ whole ++ fraction ++ exponent), rest)

/-- The words that stand for a value, with their values. -/
def namedValues : List (Text × Json) :=
  [("null", .null), ("true", .bool true), ("false", .bool false), ("NaN", .float "nan"),
    ("Infinity", .float "inf"), ("-Infinity", .float "-inf")]

/-- The named value at the start of a text, and the text after it. -/
def readNamed? (text : Text) : Option (Json × Text) :=
  (namedValues.find? fun named => named.1.isPrefixOf text).map
    fun named => (named.2, text.drop named.1.length)

mutual

/-- Reads the value at the start of a text. `fuel` bounds the depth of the calls; twice the length
of the text is enough. -/
def readValue : (fuel : Nat) → Text → Except ReadFault (Json × Text)
  | 0, text => .error (.malformed .value text)
  | fuel + 1, text =>
    match text with
    | [] => .error (.malformed .value text)
    | '"' :: rest =>
      match readString text (rest.length + 1) [] rest with
      | .ok (value, rest) => .ok (.str value, rest)
      | .error fault => .error fault
    | '{' :: rest =>
      let rest := skipSpace rest
      match rest with
      | '}' :: rest => .ok (.obj [], rest)
      | _ => readMembers fuel [] rest
    | '[' :: rest =>
      let rest := skipSpace rest
      match rest with
      | ']' :: rest => .ok (.arr [], rest)
      | _ => readItems fuel [] rest
    | _ =>
      match readNamed? text with
      | some found => .ok found
      | none => readNumber text

/-- Reads the items of an array from the next item on; `taken` are the items before it, latest
first. -/
def readItems : (fuel : Nat) → (taken : List Json) → Text → Except ReadFault (Json × Text)
  | 0, _, text => .error (.malformed .value text)
  | fuel + 1, taken, text =>
    match readValue fuel text with
    | .error fault => .error fault
    | .ok (item, rest) =>
      match skipSpace rest with
      | ']' :: rest => .ok (.arr (item :: taken).reverse, rest)
      | ',' :: rest => readItems fuel (item :: taken) (skipSpace rest)
      | rest => .error (.malformed .comma rest)

/-- Reads the members of an object from the next key on; `taken` are the members before it. -/
def readMembers : (fuel : Nat) → (taken : Registry Json) → Text → Except ReadFault (Json × Text)
  | 0, _, text => .error (.malformed .value text)
  | fuel + 1, taken, text =>
    match text with
    | '"' :: rest =>
      match readString text (rest.length + 1) [] rest with
      | .error fault => .error fault
      | .ok (key, rest) =>
        match skipSpace rest with
        | ':' :: rest =>
          match readValue fuel (skipSpace rest) with
          | .error fault => .error fault
          | .ok (value, rest) =>
            let taken := taken.put key value
            match skipSpace rest with
            | '}' :: rest => .ok (.obj taken, rest)
            | ',' :: rest => readMembers fuel taken (skipSpace rest)
            | rest => .error (.malformed .comma rest)
        | rest => .error (.malformed .colon rest)
    | _ => .error (.malformed .propertyName text)

end

/-- Reads a text that holds one value. Surrogates are looked for last, since every complaint comes
before them. -/
def read (text : Text) : Except ReadFault Json :=
  if text.head? == some '\uFEFF' then .error (.malformed .byteOrderMark text)
  else
    match readValue (2 * text.length + 2) (skipSpace text) with
    | .error fault => .error fault
    | .ok (value, rest) =>
      match skipSpace rest with
      | [] => if hasLoneSurrogate text.length text then .error .loneSurrogate else .ok value
      | rest => .error (.malformed .extraData rest)

/-- The number, from one, of the line of `text` on which its last part `rest` begins. -/
def lineOf (text rest : Text) : Nat :=
  1 + (text.take (text.length - rest.length)).count '\n'

end PseudoLint.Json
