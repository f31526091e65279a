import PseudoLint.Diagnostic
import PseudoLint.Symbol
import PseudoLint.Text.CaseMap

/-! # Findings

A finding is what a rule or a sweep has to say about a line, as a value: its cause together with
the words it quotes. Its message, its severity and its code follow from the cause alone, so equal
findings on one line give equal diagnostics.
-/

namespace PseudoLint

inductive Finding where
  | noContent
  | indentation (unit : Int)
  | equalsAssignment
  | nameStartsWithDigit (word : Text)
  | nameHasInvalidCharacters (word : Text)
  | unrecognizedLine
  | unknownKeyword (word : Text)
  | keywordCase (word : Text)
  | foreignKeyword (word : Text)
  | unexpectedCloser (closer : Text)
  | mismatchedCloser (expected found : Text)
  | unmatchedOpener (opener closer : Text)
  | extraCloser (closer : Text)
  | forEndedByEndfor
  | reservedName (name : Text)
  | redeclaredWithType (name type : Text) (line : Int)
  | redeclared (name : Text) (line : Int)
  | declarationWithoutColon
  | arrayWithoutBrackets
  | arrayWithoutOf
  | constantWithoutEquals
  | constantWithArrow
  | functionWithoutReturns
  | forShape
  | caseShape
  | whileParentheses
  | indexOutOfBounds (index : Int) (name : Text) (array : ArraySymbol)
  | undeclared (name : Text)
  | functionCalled (name : Text)
  | invalidFileMode (mode : Text) (modes : List Text)
  | openFileShape (modes : List Text)
  | charDeclaredWithString
  | emptyCharLiteral
  | longCharLiteral
  | charAssignedString (name : Text)
  | unclosedString
  | lengthOfOther (type : Text)
  | emptyForBody
deriving DecidableEq, Repr

namespace Finding

def message : Finding → Text
  | .noContent => "No pseudocode content found. Please write some pseudocode."
  | .indentation unit =>
    "Indentation should be multiples of " ++ Numeral.ofInt unit ++ " spaces"
  | .equalsAssignment => "Use ← for assignment instead of = (Cambridge rule)"
  | .nameStartsWithDigit word => "Identifier '" ++ word ++ "' cannot start with a number"
  | .nameHasInvalidCharacters word => "Identifier '" ++ word ++ "' contains invalid characters"
  | .unrecognizedLine =>
    "This line does not appear to be valid pseudocode. Use Cambridge keywords and proper syntax."
  | .unknownKeyword word => "Unknown keyword: " ++ word
  | .keywordCase word =>
    "Keyword '" ++ word ++ "' should be uppercase: '" ++ word.upper ++ "'"
  | .foreignKeyword word => "'" ++ word ++ "' is not a valid Cambridge pseudocode keyword"
  | .unexpectedCloser closer => "Unexpected " ++ closer ++ " without matching opening"
  | .mismatchedCloser expected found => "Expected " ++ expected ++ " but found " ++ found
  | .unmatchedOpener opener closer => "Unmatched " ++ opener ++ " - missing " ++ closer
  | .extraCloser closer => "Extra " ++ closer ++ " - no matching opening block"
  | .forEndedByEndfor => "FOR loops must end with NEXT, not ENDFOR"
  | .reservedName name =>
    "'" ++ name ++ "' is a reserved keyword and cannot be used as a variable name"
  | .redeclaredWithType name type line =>
    "Variable '" ++ name ++ "' redeclared with different type. Previously declared as " ++ type ++
      " on line " ++ Numeral.ofInt line
  | .redeclared name line =>
    "Variable '" ++ name ++ "' already declared on line " ++ Numeral.ofInt line
  | .declarationWithoutColon => "DECLARE statement must specify variable type with colon (:)"
  | .arrayWithoutBrackets =>
    "ARRAY declaration must include index range in square brackets [start:end]"
  | .arrayWithoutOf => "ARRAY declaration must include OF keyword"
  | .constantWithoutEquals => "CONSTANT must be assigned a value using ="
  | .constantWithArrow => "CONSTANT declarations use = not ←"
  | .functionWithoutReturns => "FUNCTION must specify return type with RETURNS"
  | .forShape => "FOR loop must use format: FOR variable ← start TO end"
  | .caseShape => "CASE statement must use format: CASE OF variable"
  | .whileParentheses => "WHILE conditions should not use parentheses in Cambridge pseudocode"
  | .indexOutOfBounds index name array =>
    "Array index " ++ Numeral.ofInt index ++ " is out of bounds. Array '" ++ name ++
      "' valid range is " ++ array.rangeText
  | .undeclared name => "Variable '" ++ name ++ "' must be declared before use"
  | .functionCalled name =>
    "CALL should not be used with functions. Use function calls directly: " ++ name ++ "(...)"
  | .invalidFileMode mode modes =>
    "Invalid file mode '" ++ mode ++ "'. Valid modes are: " ++ Text.join ", " modes
  | .openFileShape modes =>
    "OPENFILE syntax should be: OPENFILE filename FOR mode (" ++ Text.join "/" modes ++ ")"
  | .charDeclaredWithString => "CHAR literals must use single quotes ('), not double quotes (\")"
  | .emptyCharLiteral => "Empty CHAR literal - CHAR must contain exactly one character"
  | .longCharLiteral =>
    "CHAR literal can only contain one character. Use double quotes for strings"
  | .charAssignedString name =>
    "CHAR variable '" ++ name ++
      "' must use single quotes (') for character literals, not double quotes (\")"
  | .unclosedString => "Unclosed string - missing closing quote"
  | .lengthOfOther type =>
    "LENGTH() can only be used with STRING or ARRAY variables, not " ++ type
  | .emptyForBody => "Empty FOR loop body - consider adding statements or removing the loop"

/-- The code of the category a finding belongs to. -/
def code : Finding → Text
  | .noContent => "E000"
  | .indentation _ => "W001"
  | .equalsAssignment => "E010"
  | .nameStartsWithDigit _ | .nameHasInvalidCharacters _ => "E011"
  | .unrecognizedLine => "E012"
  | .unknownKeyword _ => "E013"
  | .keywordCase _ => "E014"
  | .foreignKeyword _ => "E015"
  | .unexpectedCloser _ | .mismatchedCloser _ _ | .unmatchedOpener _ _ | .extraCloser _
  | .forEndedByEndfor => "E020"
  | .reservedName _ => "E030"
  | .redeclaredWithType _ _ _ => "E031"
  | .redeclared _ _ => "W031"
  | .declarationWithoutColon | .arrayWithoutBrackets | .arrayWithoutOf | .constantWithoutEquals
  | .constantWithArrow | .functionWithoutReturns => "E032"
  | .forShape | .caseShape | .whileParentheses => "E033"
  | .indexOutOfBounds _ _ _ => "E040"
  | .undeclared _ => "E041"
  | .functionCalled _ => "E042"
  | .invalidFileMode _ _ | .openFileShape _ => "E043"
  | .charDeclaredWithString | .emptyCharLiteral | .longCharLiteral | .charAssignedString _ =>
    "E044"
  | .unclosedString => "E045"
  | .lengthOfOther _ => "E046"
  | .emptyForBody => "W050"

/-- Layout, repeated declarations and empty loops are warnings; everything else is an error. -/
def severity : Finding → Severity
  | .indentation _ | .redeclared _ _ | .emptyForBody => .warning
  | _ => .error

def on (line : Int) (finding : Finding) : Diagnostic :=
  ⟨line, finding.message, finding.severity, finding.code⟩

end Finding

end PseudoLint
