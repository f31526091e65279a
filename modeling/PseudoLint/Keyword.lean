import PseudoLint.Text.CaseMap

/-! # Reserved words

The reserved words of the dialect are written in capitals. Eight of them open a block and each of
these has one word that closes it.
-/

namespace PseudoLint

def assignArrow : Char :=
  '←'

namespace Keyword

def reserved : List Text :=
  List.map String.toList
    ["DECLARE", "CONSTANT", "TYPE", "ENDTYPE", "DEFINE",
      "INTEGER", "REAL", "CHAR", "STRING", "BOOLEAN", "DATE", "ARRAY", "OF", "SET",
      "IF", "THEN", "ELSE", "ENDIF", "ELSEIF",
      "CASE", "ENDCASE", "OTHERWISE",
      "FOR", "TO", "NEXT", "STEP",
      "WHILE", "ENDWHILE", "REPEAT", "UNTIL",
      "BREAK",
      "PROCEDURE", "ENDPROCEDURE", "FUNCTION", "ENDFUNCTION", "RETURN", "RETURNS",
      "CALL", "BYVAL", "BYREF",
      "INPUT", "OUTPUT",
      "OPENFILE", "READFILE", "WRITEFILE", "CLOSEFILE", "SEEK", "GETRECORD", "PUTRECORD",
      "AND", "OR", "NOT", "MOD", "DIV",
      "TRUE", "FALSE",
      "RIGHT", "LEFT", "LENGTH", "MID", "LCASE", "UCASE",
      "INT", "RAND"]

/-- Words of other languages that the dialect does not have. -/
def foreign : List Text :=
  ["CONTINUE", "DO", "SWITCH", "DEFAULT", "TRY", "CATCH"]

/-- Words that make an equals sign on their line a comparison. -/
def tests : List Text :=
  ["IF", "ELSEIF", "WHILE", "UNTIL"]

/-- Words whose presence makes the names on a line uses of variables. -/
def usageTriggers : List Text :=
  ["OUTPUT", "INPUT", "IF", "WHILE"]

/-- The words that open a block, each with the word that closes it. -/
def blocks : List (Text × Text) :=
  [("IF", "ENDIF"), ("FOR", "NEXT"), ("WHILE", "ENDWHILE"), ("REPEAT", "UNTIL"),
    ("PROCEDURE", "ENDPROCEDURE"), ("FUNCTION", "ENDFUNCTION"), ("CASE", "ENDCASE"),
    ("TYPE", "ENDTYPE")]

/-- Openings and endings that match although the ending does not have the common form. -/
def tolerated : List (Text × Text) :=
  [("FOR", "NEXT"), ("REPEAT", "UNTIL")]

/-- Whether a word is reserved when it is written in capitals. -/
def isReserved (word : Text) : Bool :=
  reserved.contains word.upper

def isForeign (word : Text) : Bool :=
  foreign.contains word.upper

/-- The word that closes the block opened by `opener`. -/
def closer? (opener : Text) : Option Text :=
  blocks.lookup opener

def isOpener (word : Text) : Bool :=
  (closer? word).isSome

def isCloser (word : Text) : Bool :=
  (blocks.map (·.2)).contains word

end Keyword

end PseudoLint
