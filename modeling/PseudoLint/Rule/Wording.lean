import PseudoLint.Form
import PseudoLint.Rule.Basic
import PseudoLint.Text.Digit

/-! # Rules on the wording of a line

An equals sign is no assignment, names have a fixed shape, reserved words are written in capitals,
words of other languages are refused, and a line has to contain something that the dialect knows.
These rules need nothing of what was declared before.
-/

namespace PseudoLint.Rule

/-- A code without the signs for at most and at least. -/
def dropRelations : Text → Text
  | '<' :: '=' :: rest => dropRelations rest
  | '>' :: '=' :: rest => dropRelations rest
  | c :: rest => c :: dropRelations rest
  | [] => []

/-- Whether an equals sign on a line stands in the place of an assignment sign: it is not part of a
relation, the line declares no constant, has no assignment sign and tests no condition. -/
def assignsByEquals (statement : Statement) : Bool :=
  !statement.startsWith "CONSTANT" && !statement.hasArrow &&
    (dropRelations statement.code).contains '=' &&
    !Keyword.tests.any (hasWord · statement.code)

/-- An equals sign does not assign. -/
def assignmentSign : Rule :=
  reporting fun _ statement _ => whenever (assignsByEquals statement) .equalsAssignment

/-- What is wrong with the shape of a word of the code. -/
def nameShapeFindings (word : Text) : List Finding :=
  if Keyword.isReserved word || word.all isDigit then []
  else if (word.take 1).all isDigit then [.nameStartsWithDigit word]
  else whenever (!isStrictName word) (.nameHasInvalidCharacters word)

/-- Words that are neither reserved nor numbers are strict names. -/
def nameShape : Rule :=
  reporting fun _ statement _ => (wordRuns statement.code).flatMap nameShapeFindings

/-- Whether a line contains a reserved word, an assignment sign, an equation or a colon. -/
def isRecognized (statement : Statement) : Bool :=
  statement.words.any Keyword.isReserved || statement.hasArrow ||
    Form.beginsWithEquation statement.text || statement.text.contains ':'

/-- A line contains something that the dialect knows. -/
def lineShape : Rule :=
  reporting fun _ statement _ => whenever (!isRecognized statement) .unrecognizedLine

/-- Reserved words are written in capitals. -/
def keywordCase : Rule :=
  reporting fun _ statement _ =>
    (statement.names.filter fun word => Keyword.isReserved word && word != word.upper).map
      .keywordCase

/-- Words of other languages are refused. -/
def foreignKeyword : Rule :=
  reporting fun _ statement _ =>
    (statement.names.filter Keyword.isForeign).map .foreignKeyword

end PseudoLint.Rule
