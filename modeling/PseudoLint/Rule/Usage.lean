import PseudoLint.Form
import PseudoLint.Rule.Basic

/-! # Rules on the use of literals and names

Strings are closed, character literals hold one character or an escape, and character variables are
not given strings. A literal index lies within the bounds of its array, and a variable is declared
before it is assigned to or read.
-/

namespace PseudoLint.Rule

/-! ## Literals -/

/-- Strings are closed on their line. -/
def unclosedString : Rule :=
  reporting fun _ statement _ => whenever statement.hasUnclosedString .unclosedString

/-- What is wrong with the content of a character literal. -/
def charLiteralFindings : Text → List Finding
  | [] => [.emptyCharLiteral]
  | [_] => []
  | c :: _ => whenever (c != '\\') .longCharLiteral

/-- What is wrong with the assignment of a string literal. -/
def stringAssignmentFindings (statement : Statement) (table : SymbolTable) : List Finding :=
  match Form.stringAssignment.first? statement.text with
  | some name =>
    match table.resolve? name with
    | some symbol => whenever (TypeText.isChar symbol.type) (.charAssignedString name)
    | none => []
  | none => []

/-- Character literals hold one character, and character variables take no strings. -/
def charLiteral : Rule :=
  reporting fun _ statement state =>
    (charLiterals statement.text).flatMap charLiteralFindings ++
      stringAssignmentFindings statement state.table

/-! ## Names -/

def accesses (statement : Statement) : Except Fault (List (Text × Int)) :=
  (Form.arrayAccess.all statement.code).mapM fun (name, index) => do
    let index ← literalValue index
    pure (name, index)

/-- What is wrong with an access. -/
def accessFindings (table : SymbolTable) : Text × Int → List Finding
  | (name, index) =>
    match table.array? name with
    | some array => whenever (!array.contains index) (.indexOutOfBounds index name array)
    | none => []

/-- Literal indices lie within the bounds of their array. -/
def arrayBounds : Rule := fun _ statement state => do
  let accesses ← accesses statement
  pure (state, accesses.flatMap (accessFindings state.table))

/-- Variables are declared before they are assigned to. -/
def assignmentTarget : Rule :=
  reporting fun _ statement state =>
    match Form.assignedName statement.text with
    | some name => whenever (!state.table.isDeclared name) (.undeclared name)
    | none => []

/-- Whether a name in the code stands for a variable: it is not reserved, not called and not the
field of a record. -/
def isVariableUse (use : NameUse) : Bool :=
  !Keyword.isReserved use.name && (use.right.trimStart).head? != some '(' &&
    (use.left.trimStart).head? != some '.'

/-- Whether the names of a line are uses of variables. -/
def readsVariables (statement : Statement) : Bool :=
  !statement.hasUnclosedString && Keyword.usageTriggers.any (statement.code.hasInfix ·)

/-- Variables are declared before they are read. -/
def usage : Rule :=
  reporting fun _ statement state =>
    if readsVariables statement then
      ((nameUses statement.code).filter fun use =>
        isVariableUse use && !state.table.isDeclared use.name).map (.undeclared ·.name)
    else []

end PseudoLint.Rule
