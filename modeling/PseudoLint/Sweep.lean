import PseudoLint.Form
import PseudoLint.Rule.Basic

/-! # Sweeps

A sweep looks at all lines of a source at once, after the line pass: for closing words without an
opening line, for loops ended by the wrong word, for lengths of values that have none and for
loops without a body.
-/

namespace PseudoLint.Sweep

/-! ## Extra closing words -/

/-- Closing words, each with the beginning of the lines that open its blocks. -/
def families : List (Text × Text) :=
  [("ENDIF", "IF "), ("ENDWHILE", "WHILE "), ("ENDPROCEDURE", "PROCEDURE "),
    ("ENDFUNCTION", "FUNCTION "), ("ENDCASE", "CASE "), ("ENDTYPE", "TYPE ")]

def countOpening (opening : Text) (statements : List Statement) : Nat :=
  statements.countP (·.startsWith opening)

def countClosing (closer : Text) (statements : List Statement) : Nat :=
  statements.countP (·.text == closer)

/-- The finding on a statement after the given earlier ones, latest first: it is a closing word and
more blocks of its family are closed up to here than were opened. -/
def extraCloserAfter (earlier : List Statement) (statement : Statement) : List Diagnostic :=
  match families.lookup statement.text with
  | some opening =>
    let sofar := statement :: earlier
    if countOpening opening sofar < countClosing statement.text sofar then
      [(Finding.extraCloser statement.text).on statement.line]
    else []
  | none => []

/-- Closing words without an opening line, after the given earlier statements. -/
def extraClosersAfter (earlier : List Statement) : List Statement → List Diagnostic
  | [] => []
  | statement :: rest =>
    extraCloserAfter earlier statement ++ extraClosersAfter (statement :: earlier) rest

/-- Closing words without an opening line. -/
def extraClosers (statements : List Statement) : List Diagnostic :=
  extraClosersAfter [] statements

/-! ## Loops ended by the wrong word -/

/-- The positions of the statements that begin with the wrong closing word, in order. -/
def endforPositions (statements : List Statement) : List Nat :=
  (statements.zipIdx.filter (·.1.startsWith "ENDFOR")).map (·.2)

/-- Where a position belongs in an ascending list, behind those that equal it. -/
def insertionPoint (position : Nat) (ascending : List Nat) : Nat :=
  (ascending.takeWhile (· ≤ position)).length

/-- The statement at the first of some ascending positions that is greater than the given one. -/
def firstBehind? (statements : List Statement) (ascending : List Nat) (position : Nat) :
    Option Statement :=
  ascending[insertionPoint position ascending]?.bind (statements[·]?)

/-- For each counted loop, the first later line that begins with the wrong closing word. -/
def endfors (statements : List Statement) : List Diagnostic :=
  let positions := endforPositions statements
  statements.zipIdx.filterMap fun (statement, position) =>
    if statement.firstWord == "FOR" then
      (firstBehind? statements positions position).map (Finding.forEndedByEndfor.on ·.line)
    else none

/-! ## Lengths -/

/-- The lengths of known symbols whose type has none, by the final table. -/
def lengths (table : SymbolTable) (statements : List Statement) : List Diagnostic :=
  statements.flatMap fun statement =>
    (Form.lengthArgument.all statement.code).flatMap fun name =>
      match table.resolve? name with
      | some symbol =>
        if TypeText.supportsLength symbol.type then []
        else [(Finding.lengthOfOther symbol.type).on statement.line]
      | none => []

/-! ## Loops without a body -/

def isForHeader (statement : Statement) : Bool :=
  statement.startsWith "FOR " && statement.text.hasInfix " TO "

/-- Whether a statement closes a counted loop. -/
def closesFor (statement : Statement) : Bool :=
  statement.firstWord == "NEXT"

/-- Headers of counted loops that the closing word follows at once, but for blank lines and
comments. -/
def emptyFors : List Statement → List Diagnostic
  | [] => []
  | statement :: rest =>
    let found :=
      if isForHeader statement && (rest.find? (·.isContent)).any closesFor then
        [Finding.emptyForBody.on statement.line]
      else []
    found ++ emptyFors rest

def all (table : SymbolTable) (statements : List Statement) : List Diagnostic :=
  extraClosers statements ++ endfors statements ++ lengths table statements ++
    emptyFors statements

end PseudoLint.Sweep
