import PseudoLint.Json.Basic
import PseudoLint.Numeral
import PseudoLint.Text.Quoted

/-! # Writing JSON

Strings are written with the short escapes for quotes, backslashes and common controls, and with
four hexadecimal digits for the other controls; every other character stands for itself. A value
is written either on one line or with each item on a line of its own, two columns further in.
-/

namespace PseudoLint.Json

def writeChar (c : Char) : Text :=
  match c with
  | '"' => ['\\', '"']
  | '\\' => ['\\', '\\']
  | '\n' => ['\\', 'n']
  | '\r' => ['\\', 'r']
  | '\t' => ['\\', 't']
  | '\u0008' => ['\\', 'b']
  | '\u000C' => ['\\', 'f']
  | _ => if c.toNat < 0x20 then '\\' :: 'u' :: hexDigits 4 c.toNat else [c]

def writeString (text : Text) : Text :=
  '"' :: text.flatMap writeChar ++ ['"']

mutual

/-- A value on one line, without spaces. -/
def compact : Json → Text
  | .null => "null"
  | .bool true => "true"
  | .bool false => "false"
  | .int value => Numeral.ofInt value
  | .float literal => literal
  | .str value => writeString value
  | .arr items => '[' :: compactItems items ++ [']']
  | .obj members => '{' :: compactMembers members ++ ['}']

def compactItems : List Json → Text
  | [] => []
  | [item] => compact item
  | item :: rest => compact item ++ ',' :: compactItems rest

def compactMembers : List (Text × Json) → Text
  | [] => []
  | [(key, value)] => writeString key ++ ':' :: compact value
  | (key, value) :: rest => writeString key ++ ':' :: compact value ++ ',' :: compactMembers rest

end

/-- A line end and the margin of the given depth. -/
def lineBreak (depth : Nat) : Text :=
  '\n' :: List.replicate (2 * depth) ' '

mutual

/-- A value over several lines, inside brackets that stand at the given depth. -/
def indented (depth : Nat) : Json → Text
  | .arr (item :: rest) =>
    '[' :: lineBreak (depth + 1) ++ indentedItems (depth + 1) (item :: rest) ++
      lineBreak depth ++ [']']
  | .obj (member :: rest) =>
    '{' :: lineBreak (depth + 1) ++ indentedMembers (depth + 1) (member :: rest) ++
      lineBreak depth ++ ['}']
  | value => compact value

def indentedItems (depth : Nat) : List Json → Text
  | [] => []
  | [item] => indented depth item
  | item :: rest => indented depth item ++ ',' :: lineBreak depth ++ indentedItems depth rest

def indentedMembers (depth : Nat) : List (Text × Json) → Text
  | [] => []
  | [(key, value)] => writeString key ++ ": " ++ indented depth value
  | (key, value) :: rest =>
    writeString key ++ ": " ++ indented depth value ++ ',' :: lineBreak depth ++
      indentedMembers depth rest

end

end PseudoLint.Json
