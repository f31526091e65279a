import PseudoLint.Text.Blank

/-! # Literals and comments

A string literal stands between double quotes, a character literal between single quotes, and a
comment runs from two slashes to the end of the line. The code of a line is what remains without
them; a string that is not closed takes the rest of the line with it. Strings are removed first,
so slashes and single quotes inside a string do not count.
-/

namespace PseudoLint

/-- Joins the stretches outside quotes, given all stretches between quotes in order. A last quote
without a partner stays, with the text after it. -/
def outsideQuotes (quote : Char) : List Text → Text
  | [] => []
  | [outside] => outside
  | [outside, unclosed] => outside ++ quote :: unclosed
  | outside :: _ :: rest => outside ++ outsideQuotes quote rest

/-- The stretches inside closed quotes, given all stretches between quotes in order. -/
def insideQuotes : List Text → List Text
  | _ :: inside :: outside :: rest => inside :: insideQuotes (outside :: rest)
  | _ => []

/-- Removes every quoted stretch with its quotes. -/
def dropQuoted (quote : Char) (text : Text) : Text :=
  outsideQuotes quote (text.splitOn quote)

/-- Whether a comment begins a text: two slashes after which no line feed follows, except one that
ends the text. -/
def beginsComment (text : Text) : Bool :=
  let tail := text.dropWhile (· != '\n')
  text.startsWith "//" && (tail.isEmpty || tail == ['\n'])

/-- Removes the comment at the end of a text. A line feed that ends the text stays. -/
def dropComment : Text → Text
  | [] => []
  | c :: rest =>
    if beginsComment (c :: rest) then (c :: rest).dropWhile (· != '\n')
    else c :: dropComment rest

def dropStrings (text : Text) : Text :=
  dropComment (dropQuoted '"' text)

/-- The code of a line: its text without string literals, character literals and comment, cut at a
double quote that is not closed, and trimmed. -/
def codeOf (text : Text) : Text :=
  Text.trim (dropComment (dropQuoted '\'' ((dropQuoted '"' text).takeWhile (· != '"'))))

/-- The contents of the character literals of a text, strings and comment set aside. -/
def charLiterals (text : Text) : List Text :=
  insideQuotes ((dropStrings text).splitOn '\'')

end PseudoLint
