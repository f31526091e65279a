import PseudoLint.Identifier
import PseudoLint.Keyword
import PseudoLint.Literal

/-! # Lines and statements

A source is split into lines at line feeds, numbered from one. A line carries a statement: its
text without the blanks around it. Everything the checker reads except the indentation is a
property of the statement.
-/

namespace PseudoLint

/-- What stands on a line between its leading and trailing blanks. -/
structure Statement where
  line : Int
  text : Text
deriving DecidableEq, Repr

structure Line where
  number : Int
  raw : Text
deriving DecidableEq, Repr

namespace Statement

/-- The text without literals and comment. -/
def code (statement : Statement) : Text :=
  codeOf statement.text

def words (statement : Statement) : List Text :=
  statement.text.words

/-- The first word of the text, empty if there is none. -/
def firstWord (statement : Statement) : Text :=
  statement.words.headD []

def isBlank (statement : Statement) : Bool :=
  statement.text.isEmpty

def isComment (statement : Statement) : Bool :=
  statement.text.startsWith "//"

/-- Whether there is something to check. -/
def isContent (statement : Statement) : Bool :=
  !statement.isBlank && !statement.isComment

/-- Whether the number of double quotes is odd. -/
def hasUnclosedString (statement : Statement) : Bool :=
  statement.text.count '"' % 2 != 0

/-- The names in the code. -/
def names (statement : Statement) : List Text :=
  PseudoLint.names statement.code

def startsWith (statement : Statement) (start : Text) : Bool :=
  statement.text.startsWith start

def hasArrow (statement : Statement) : Bool :=
  statement.text.contains assignArrow

end Statement

namespace Line

def statement (line : Line) : Statement :=
  ⟨line.number, line.raw.trim⟩

/-- The number of blanks before the statement. -/
def indent (line : Line) : Nat :=
  line.raw.length - line.raw.trimStart.length

/-- Whether a line carries something to check. -/
def isContent (line : Line) : Bool :=
  line.statement.isContent

/-- Numbers raw lines in order, starting with `number`. -/
def enumerate : (number : Int) → List Text → List Line
  | _, [] => []
  | number, raw :: rest => ⟨number, raw⟩ :: enumerate (number + 1) rest

/-- The lines of a source, numbered from one. -/
def ofSource (source : Text) : List Line :=
  enumerate 1 source.lines

def anyContent (lines : List Line) : Bool :=
  lines.any isContent

end Line

end PseudoLint
