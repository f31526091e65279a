import PseudoLint.Form
import PseudoLint.Rule.Basic

/-! # Rules on the shape of statements

Loops, selections, file handling and calls have a fixed shape.
-/

namespace PseudoLint.Rule

/-- A counted loop assigns its variable and names its last value. -/
def forShape : Rule :=
  reporting fun _ statement _ =>
    whenever
      (statement.firstWord == "FOR" && !(statement.hasArrow && hasWord "TO" statement.code))
      .forShape

/-- A selection keeps its `OF` outside literals and comments. -/
def caseShape : Rule :=
  reporting fun _ statement _ =>
    whenever (statement.startsWith "CASE OF" && !hasWord "OF" statement.code) .caseShape

/-- The condition of a loop stands without parentheses. -/
def whileShape : Rule :=
  reporting fun _ statement _ =>
    whenever
      (statement.firstWord == "WHILE" && statement.code.contains '(' &&
        statement.code.contains ')')
      .whileParentheses

/-- What is wrong with the opening of a file. -/
def openFileFindings (config : Config) (statement : Statement) : List Finding :=
  match Form.fileMode.first? statement.text with
  | some mode =>
    whenever (!config.fileModes.contains mode.upper)
      (.invalidFileMode mode.upper config.fileModes)
  | none => whenever (statement.text.hasInfix "FOR") (.openFileShape config.fileModes)

/-- Files are opened in one of the configured modes. -/
def openFile : Rule :=
  reporting fun config statement _ =>
    if statement.startsWith "OPENFILE" then openFileFindings config statement else []

/-- Functions are not called as procedures. -/
def callShape : Rule :=
  reporting fun _ statement state =>
    if statement.startsWith "CALL " then
      match Form.callName.first? statement.text with
      | some name => whenever (state.table.isFunction name) (.functionCalled name)
      | none => []
    else []

end PseudoLint.Rule
