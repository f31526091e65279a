import PseudoLint.Identifier
import PseudoLint.Keyword
import PseudoLint.Text.Digit

/-! # The core language

The part of the dialect that every program needs: declarations of variables of a basic type, then
assignments, input, output, selections and the three loops over declared variables and numbers. A
program is data that carries its own well-formedness: names are strict and not reserved, a variable
is declared, a nested body has at least one statement. Printing a program writes one header, closer
or statement on each line and indents nested bodies by one unit.
-/

namespace PseudoLint.Core

/-! ## Names -/

/-- Beginnings that make a line another kind of line, even where they only begin a name. -/
def lineBeginnings : List Text :=
  ["DECLARE", "CONSTANT", "OPENFILE", "ENDFOR"]

/-- The name of a variable. -/
structure Name where
  text : Text
  strict : isStrictName text = true
  notReserved : Keyword.isReserved text = false
  notForeign : Keyword.isForeign text = false
  beginsNoLine : ∀ beginning ∈ lineBeginnings, text.startsWith beginning = false

/-- A name that is declared, up to case: the scope lists the lower-case forms of declared names. -/
structure Variable (scope : List Text) extends Name where
  declared : text.lower ∈ scope

/-- The types of variables. -/
inductive BasicType where
  | integer
  | real
  | string
  | char
  | boolean
  | date
deriving DecidableEq, Repr

/-- A type as it is written. -/
def BasicType.text : BasicType → Text
  | .integer => "INTEGER"
  | .real => "REAL"
  | .string => "STRING"
  | .char => "CHAR"
  | .boolean => "BOOLEAN"
  | .date => "DATE"

/-- The declaration of a variable. -/
structure Declaration where
  name : Name
  type : BasicType

/-! ## Expressions -/

/-- A number as it is written. -/
structure Number where
  digits : Text
  nonempty : digits ≠ []
  decimal : ∀ c ∈ digits, isDecimal c = true

/-- What an expression is made of. -/
inductive Operand (scope : List Text) where
  | name (used : Variable scope)
  | number (written : Number)

/-- The signs that join operands. -/
inductive Operator where
  | plus
  | minus
  | times
deriving DecidableEq, Repr

/-- An expression: operands joined by signs. -/
structure Expr (scope : List Text) where
  first : Operand scope
  others : List (Operator × Operand scope)

/-- The signs that compare expressions. -/
inductive Relation where
  | equal
  | less
  | greater
  | lessEqual
  | greaterEqual
  | unequal
  | atMost
  | atLeast
deriving DecidableEq, Repr

/-- A comparison of two expressions. -/
structure Condition (scope : List Text) where
  left : Expr scope
  relation : Relation
  right : Expr scope

/-- What stands between the quotes of a string literal. -/
structure Quotation where
  inside : Text
  noQuote : '"' ∉ inside
  noArrow : assignArrow ∉ inside
  noNewline : '\n' ∉ inside

/-- What a line of output lists. -/
inductive Item (scope : List Text) where
  | value (expr : Expr scope)
  | quotation (quoted : Quotation)

variable {scope : List Text}

def Operand.text : Operand scope → Text
  | .name used => used.text
  | .number written => written.digits

def Operator.sign : Operator → Char
  | .plus => '+'
  | .minus => '-'
  | .times => '*'

/-- One more operand of an expression, after its sign. -/
def joined (part : Operator × Operand scope) : Text :=
  ' ' :: part.1.sign :: ' ' :: part.2.text

def Expr.text (expr : Expr scope) : Text :=
  expr.first.text ++ expr.others.flatMap joined

def Relation.text : Relation → Text
  | .equal => ['=']
  | .less => ['<']
  | .greater => ['>']
  | .lessEqual => ['<', '=']
  | .greaterEqual => ['>', '=']
  | .unequal => ['≠']
  | .atMost => ['≤']
  | .atLeast => ['≥']

def Condition.text (condition : Condition scope) : Text :=
  condition.left.text ++ ' ' :: (condition.relation.text ++ ' ' :: condition.right.text)

def Item.text : Item scope → Text
  | .value expr => expr.text
  | .quotation quoted => '"' :: (quoted.inside ++ ['"'])

/-- One more item of a list, after a comma. -/
def Item.listed (item : Item scope) : Text :=
  ',' :: ' ' :: item.text

/-! ## Lines -/

/-- What stands on one line of a program. -/
inductive Phrase (scope : List Text) where
  | declare (target : Variable scope) (type : BasicType)
  | assign (target : Variable scope) (value : Expr scope)
  | input (target : Variable scope)
  | output (first : Item scope) (others : List (Item scope))
  | ifThen (test : Condition scope)
  | otherwise
  | endIf
  | whileTest (test : Condition scope)
  | endWhile
  | repeatBody
  | untilTest (test : Condition scope)
  | forRange (counter : Variable scope) (first last : Expr scope)
  | next (counter : Variable scope)

namespace Phrase

/-- The first word of a line. -/
def head : Phrase scope → Text
  | declare .. => "DECLARE"
  | assign target _ => target.text
  | input _ => "INPUT"
  | output .. => "OUTPUT"
  | ifThen _ => "IF"
  | otherwise => "ELSE"
  | endIf => "ENDIF"
  | whileTest _ => "WHILE"
  | endWhile => "ENDWHILE"
  | repeatBody => "REPEAT"
  | untilTest _ => "UNTIL"
  | forRange .. => "FOR"
  | next _ => "NEXT"

/-- A line after its first word. -/
def tail : Phrase scope → Text
  | declare target type => ' ' :: (target.text ++ ' ' :: ':' :: ' ' :: type.text)
  | assign _ value => ' ' :: assignArrow :: ' ' :: value.text
  | input target => ' ' :: target.text
  | output first others => ' ' :: (first.text ++ others.flatMap Item.listed)
  | ifThen test => ' ' :: (test.text ++ ' ' :: "THEN")
  | whileTest test => ' ' :: test.text
  | untilTest test => ' ' :: test.text
  | forRange counter first last =>
    ' ' :: (counter.text ++ ' ' :: assignArrow :: ' ' ::
      (first.text ++ ' ' :: ("TO" ++ ' ' :: last.text)))
  | next counter => ' ' :: counter.text
  | otherwise | endIf | endWhile | repeatBody => []

/-- A line as it is written. -/
def text (phrase : Phrase scope) : Text :=
  phrase.head ++ phrase.tail

/-- A line at some depth of nesting, indented by units of spaces. -/
def indented (unit depth : Nat) (phrase : Phrase scope) : Text :=
  List.replicate (depth * unit) ' ' ++ phrase.text

end Phrase

/-! ## Programs -/

/-- One or more statements in a row. -/
inductive Body (scope : List Text) where
  | assign (target : Variable scope) (value : Expr scope)
  | input (target : Variable scope)
  | output (first : Item scope) (others : List (Item scope))
  | ifThen (test : Condition scope) (yes : Body scope)
  | ifElse (test : Condition scope) (yes no : Body scope)
  | whileLoop (test : Condition scope) (inner : Body scope)
  | repeatLoop (inner : Body scope) (test : Condition scope)
  | forLoop (counter : Variable scope) (first last : Expr scope) (inner : Body scope)
  | seq (first second : Body scope)

/-- The lines of some statements, each with its depth. -/
def Body.lines (depth : Nat) : Body scope → List (Nat × Phrase scope)
  | assign target value => [(depth, .assign target value)]
  | input target => [(depth, .input target)]
  | output first others => [(depth, .output first others)]
  | ifThen test yes => (depth, .ifThen test) :: (yes.lines (depth + 1) ++ [(depth, .endIf)])
  | ifElse test yes no =>
    (depth, .ifThen test) :: (yes.lines (depth + 1) ++
      (depth, .otherwise) :: (no.lines (depth + 1) ++ [(depth, .endIf)]))
  | whileLoop test inner =>
    (depth, .whileTest test) :: (inner.lines (depth + 1) ++ [(depth, .endWhile)])
  | repeatLoop inner test =>
    (depth, .repeatBody) :: (inner.lines (depth + 1) ++ [(depth, .untilTest test)])
  | forLoop counter first last inner =>
    (depth, .forRange counter first last) ::
      (inner.lines (depth + 1) ++ [(depth, .next counter)])
  | seq first second => first.lines depth ++ second.lines depth

/-- The key under which a declaration is known. -/
def Declaration.key (declaration : Declaration) : Text :=
  declaration.name.text.lower

/-- The line of a declaration, where only the variable itself needs to be in scope. -/
def Declaration.phrase (declaration : Declaration) : Phrase [declaration.key] :=
  .declare ⟨declaration.name, List.mem_cons_self⟩ declaration.type

/-- A program: declarations of variables with different names, then statements. It has at least one
line. -/
structure Program where
  declarations : List Declaration
  body : Option (Body (declarations.map Declaration.key))
  distinct : (declarations.map Declaration.key).Nodup
  nonempty : declarations ≠ [] ∨ body.isSome = true

namespace Program

/-- The lines of the statements of a program, each with its depth. -/
def statementLines (program : Program) :
    List (Nat × Phrase (program.declarations.map Declaration.key)) :=
  (program.body.map (Body.lines 0)).getD []

/-- The lines of a program as they are written. -/
def lines (unit : Nat) (program : Program) : List Text :=
  program.declarations.map (·.phrase.text) ++
    program.statementLines.map fun line => line.2.indented unit line.1

/-- The source of a program. -/
def source (unit : Nat) (program : Program) : Text :=
  Text.join ['\n'] (program.lines unit)

end Program

end PseudoLint.Core
