import PseudoLint.Decimal.Shortest
import PseudoLint.Registry
import PseudoLint.Text.Quoted

/-! # JSON values

A JSON value in which integers and other numbers are kept apart, a number that is not an integer
keeps the text it was written with, and an object keeps its members in order of first appearance.
Shown in a table or a report, a string stands for itself on its own and is quoted inside a list or
an object.
-/

namespace PseudoLint

inductive Json where
  | null
  | bool (value : Bool)
  | int (value : Int)
  | float (literal : Text)
  | str (value : Text)
  | arr (items : List Json)
  | obj (members : List (Text × Json))
deriving Repr, Inhabited

namespace Json

def get? (key : Text) : Json → Option Json
  | .obj members => Registry.get? members key
  | _ => none

/-! ## Showing values -/

def kindName : Json → Text
  | .null => "NoneType"
  | .bool _ => "bool"
  | .int _ => "int"
  | .float _ => "float"
  | .str _ => "str"
  | .arr _ => "list"
  | .obj _ => "dict"

def floatText (literal : Text) : Text :=
  if literal.any isAsciiDigit then Decimal.ofLiteral literal else literal

mutual

/-- A value as it is shown inside a list or an object. -/
def displayInside : Json → Text
  | .null => "None"
  | .bool true => "True"
  | .bool false => "False"
  | .int value => Numeral.ofInt value
  | .float literal => floatText literal
  | .str value => value.quoted
  | .arr items => '[' :: displayItems items ++ [']']
  | .obj members => '{' :: displayMembers members ++ ['}']

/-- Items as they are shown, with commas between them. -/
def displayItems : List Json → Text
  | [] => []
  | [item] => displayInside item
  | item :: rest => displayInside item ++ ", " ++ displayItems rest

/-- Members as they are shown, with commas between them. -/
def displayMembers : List (Text × Json) → Text
  | [] => []
  | [(key, value)] => key.quoted ++ ": " ++ displayInside value
  | (key, value) :: rest =>
    key.quoted ++ ": " ++ displayInside value ++ ", " ++ displayMembers rest

end

/-- A value as it is shown on its own. -/
def display : Json → Text
  | .str value => value
  | value => displayInside value

end Json

end PseudoLint
