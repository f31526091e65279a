import PseudoLint.File.Tree
import PseudoLint.Registry
import PseudoLint.Text.CaseMap

/-! # Samples

Samples are the readable text files with a known ending that lie directly in some directories. A
sample is shown under the name of its directory and its own name; of two samples shown under one
name the later one counts. The editor page offers the samples that are listed here: short programs,
some with one typical mistake, some without any.
-/

namespace PseudoLint.Sample

/-! ## Finding samples -/

def endings : List Text :=
  [".pseudo", ".pse", ".txt"]

/-- Whether a file name has the ending of a sample, in capitals or small letters. -/
def isSampleName (name : Text) : Bool :=
  endings.contains (fileEnding name).lower

def ofDirectory (tree : FileTree) (directory : Path) : List (Text × Text) :=
  (tree.filesIn directory).filterMap fun (name, bytes) =>
    if isSampleName name then
      (decodeFile bytes).toOption.map fun text => (directory.name ++ "/" ++ name, text)
    else none

def discover (tree : FileTree) (directories : List Path) : Registry Text :=
  Registry.ofPairs (directories.flatMap (ofDirectory tree))

/-! ## Built-in samples -/

/-- An equals sign in the place of an assignment sign. -/
def failEqualsAssignment : Text :=
  "DECLARE x: INTEGER\n" ++
    "x = 5\n"

/-- An index outside the bounds of its array. -/
def failArrayBounds : Text :=
  "DECLARE arr: ARRAY[1:5] OF INTEGER\n" ++
    "OUTPUT arr[10]\n"

/-- A selection that is not closed. -/
def failUnmatchedIf : Text :=
  "IF x THEN\n" ++
    "   OUTPUT \"hi\"\n"

/-- Reserved words in small letters. -/
def failLowercaseKeywords : Text :=
  "declare x: integer\n"

def failUndeclared : Text :=
  "y ← 5\n"

/-- A loop closed by the wrong word. -/
def failMismatchedBlocks : Text :=
  "DECLARE n : INTEGER\n" ++
    "n ← 0\n" ++
    "WHILE n < 10\n" ++
    "   n ← n + 1\n" ++
    "ENDIF\n"

/-- A counted loop closed by the wrong word. -/
def failEndfor : Text :=
  "DECLARE i : INTEGER\n" ++
    "FOR i ← 1 TO 3\n" ++
    "   OUTPUT i\n" ++
    "ENDFOR\n"

/-- A declaration, an assignment and an output. -/
def okDeclareOutput : Text :=
  "DECLARE x: INTEGER\n" ++
    "x ← 5\n" ++
    "OUTPUT x\n"

def okProcedure : Text :=
  "// Cambridge Pseudocode IDE (9618 - 2026 Standards)\n" ++
    "PROCEDURE Example()\n" ++
    "   DECLARE message: STRING\n" ++
    "   DECLARE count: INTEGER\n" ++
    "\n" ++
    "   message ← \"Hello, Cambridge!\"\n" ++
    "   count ← 5\n" ++
    "\n" ++
    "   OUTPUT \"Message: \", message\n" ++
    "   OUTPUT \"Count: \", count\n" ++
    "ENDPROCEDURE\n"

/-- A counted loop over an array. -/
def okLoopsArrays : Text :=
  "DECLARE Scores : ARRAY[1:5] OF INTEGER\n" ++
    "DECLARE Index : INTEGER\n" ++
    "DECLARE Total : INTEGER\n" ++
    "Total ← 0\n" ++
    "FOR Index ← 1 TO 5\n" ++
    "   Scores[Index] ← Index * 2\n" ++
    "   Total ← Total + Scores[Index]\n" ++
    "NEXT Index\n" ++
    "OUTPUT \"Total: \", Total\n" ++
    "OUTPUT Scores[5]\n"

/-- A function with a selection. -/
def okFunctionIf : Text :=
  "FUNCTION Max(BYVAL A : INTEGER, B : INTEGER) RETURNS INTEGER\n" ++
    "   IF A > B THEN\n" ++
    "      RETURN A\n" ++
    "   ELSE\n" ++
    "      RETURN B\n" ++
    "   ENDIF\n" ++
    "ENDFUNCTION\n" ++
    "\n" ++
    "DECLARE Larger : INTEGER\n" ++
    "Larger ← Max(3, 7)\n" ++
    "OUTPUT Larger\n"

/-- A loop with a final test, a selection by cases and a constant. -/
def okRepeatCaseConstant : Text :=
  "CONSTANT Limit = 3\n" ++
    "DECLARE Counter : INTEGER\n" ++
    "DECLARE Choice : CHAR\n" ++
    "Counter ← 0\n" ++
    "REPEAT\n" ++
    "   Counter ← Counter + 1\n" ++
    "UNTIL Counter = Limit\n" ++
    "Choice ← 'A'\n" ++
    "CASE OF Choice\n" ++
    "   'A' : OUTPUT \"Option A\"\n" ++
    "   'B' : OUTPUT \"Option B\"\n" ++
    "   OTHERWISE OUTPUT \"Unknown\"\n" ++
    "ENDCASE\n"

/-- Reading a line from a file. -/
def okFileHandling : Text :=
  "DECLARE Line : STRING\n" ++
    "OPENFILE \"data.txt\" FOR READ\n" ++
    "READFILE \"data.txt\", Line\n" ++
    "OUTPUT LENGTH(Line)\n" ++
    "CLOSEFILE \"data.txt\"\n"

def builtIn : Registry Text :=
  [("samples/fail_01_equals_assignment.pseudo", failEqualsAssignment),
    ("samples/fail_02_array_bounds.pseudo", failArrayBounds),
    ("samples/fail_03_unmatched_if.pseudo", failUnmatchedIf),
    ("samples/fail_04_lowercase_keywords.pseudo", failLowercaseKeywords),
    ("samples/fail_05_undeclared.pseudo", failUndeclared),
    ("samples/fail_06_mismatched_blocks.pseudo", failMismatchedBlocks),
    ("samples/fail_07_endfor.pseudo", failEndfor),
    ("samples/ok_01_declare_output.pseudo", okDeclareOutput),
    ("samples/ok_02_procedure.pseudo", okProcedure),
    ("samples/ok_03_loops_arrays.pseudo", okLoopsArrays),
    ("samples/ok_04_function_if.pseudo", okFunctionIf),
    ("samples/ok_05_repeat_case_constant.pseudo", okRepeatCaseConstant),
    ("samples/ok_06_file_handling.pseudo", okFileHandling)]

end PseudoLint.Sample
