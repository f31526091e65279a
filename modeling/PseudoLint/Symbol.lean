import PseudoLint.Numeral
import PseudoLint.Text.Blank
import PseudoLint.Text.CaseMap

/-! # Symbols and their types

A symbol is a declared name with its type text and the line of its declaration. The type is kept as
the text it was declared with, up to blanks: words separated by single spaces. What a type allows is
read off its capitals. Arrays with literal bounds are recorded apart, since only their bounds
matter.
-/

namespace PseudoLint

/-! ## Type texts -/

namespace TypeText

/-- The type given to constants, which declare none. -/
def constant : Text :=
  "CONSTANT"

/-- A type text with one space between words and none around them. -/
def normalize (type : Text) : Text :=
  Text.join " " type.words

/-- Whether two type texts are the same up to blanks. -/
def same (left right : Text) : Bool :=
  normalize left == normalize right

def isChar (type : Text) : Bool :=
  (normalize type).upper == "CHAR"

def isString (type : Text) : Bool :=
  type.upper.hasInfix "STRING"

def isArray (type : Text) : Bool :=
  type.upper.hasInfix "ARRAY"

def supportsLength (type : Text) : Bool :=
  isString type || isArray type

end TypeText

/-! ## Symbols -/

/-- A parameter in the header of a function. -/
structure Parameter where
  name : Text
  type : Text
  line : Int
  byReference : Bool
deriving DecidableEq, Repr

inductive SymbolKind where
  | unspecified
  | variable
  | constant
  | parameter (byReference : Bool)
  | function (parameters : List Parameter)
deriving DecidableEq, Repr

structure Symbol where
  name : Text
  type : Text
  line : Int
  kind : SymbolKind
deriving DecidableEq, Repr

def SymbolKind.label : SymbolKind → Text
  | .unspecified => ""
  | .variable => "var"
  | .constant => "const"
  | .parameter _ => "param"
  | .function _ => "func"

def Parameter.symbol (parameter : Parameter) : Symbol :=
  ⟨parameter.name, parameter.type, parameter.line, .parameter parameter.byReference⟩

/-- An array whose bounds, both inclusive, are literals. -/
structure ArraySymbol where
  name : Text
  lower : Int
  upper : Int
  line : Int
deriving DecidableEq, Repr

namespace ArraySymbol

def contains (array : ArraySymbol) (index : Int) : Bool :=
  decide (array.lower ≤ index ∧ index ≤ array.upper)

def rangeText (array : ArraySymbol) : Text :=
  "[" ++ Numeral.ofInt array.lower ++ ":" ++ Numeral.ofInt array.upper ++ "]"

end ArraySymbol

end PseudoLint
