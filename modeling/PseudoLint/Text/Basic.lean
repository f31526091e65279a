/-! # Texts as lists of characters

A text is the list of its Unicode scalar values, so lengths and positions count code points and
every function on texts is ordinary list recursion. A string literal stands for the list of its
characters wherever a text is expected.
-/

namespace PseudoLint

/-- A text is the list of its characters. -/
abbrev Text := List Char

instance : Coe String Text := ⟨String.toList⟩

namespace Text

/-- The non-empty stretches between separating characters. -/
def runs (separates : Char → Bool) (text : Text) : List Text :=
  (text.splitOnP separates).filter (!·.isEmpty)

/-- The lines of a text: only a line feed ends a line. -/
def lines (text : Text) : List Text :=
  text.splitOn '\n'

/-- The texts of a list with a separator between each two. -/
def join (separator : Text) (texts : List Text) : Text :=
  separator.intercalate texts

def startsWith (text start : Text) : Bool :=
  start.isPrefixOf text

/-- Whether `needle` occurs in a text as a contiguous stretch. -/
def hasInfix : (text needle : Text) → Bool
  | [], needle => needle.isEmpty
  | c :: rest, needle => needle.isPrefixOf (c :: rest) || hasInfix rest needle

/-- The text before the first `separator` and, if there is one, the text after it. -/
def cut (separator : Char) : Text → Text × Option Text
  | [] => ([], none)
  | c :: rest =>
    if c == separator then ([], some rest)
    else
      let (before, after) := cut separator rest
      (c :: before, after)

/-- Replaces occurrences of a non-empty `old` from left to right, none overlapping another, after
dropping `skip` characters that belong to the occurrence before. -/
def replaceFrom (old new : Text) : Nat → Text → Text
  | _, [] => []
  | skip + 1, _ :: rest => replaceFrom old new skip rest
  | 0, c :: rest =>
    if old.isPrefixOf (c :: rest) then new ++ replaceFrom old new (old.length - 1) rest
    else c :: replaceFrom old new 0 rest

/-- Replaces every occurrence of `old`, taken from left to right, by `new`. The empty text occurs
once before each character and once at the end. -/
def replace (text old new : Text) : Text :=
  if old.isEmpty then new ++ text.flatMap (· :: new) else replaceFrom old new 0 text

/-- Whether `left` comes before `right`, or equals it, in the order of code points. -/
def ordered : (left right : Text) → Bool
  | [], _ => true
  | _ :: _, [] => false
  | a :: left, b :: right => decide (a.toNat < b.toNat) || (a == b && ordered left right)

end Text

/-- Sorts a list, keeping the order of elements that may precede each other. -/
abbrev stableSort {α : Type} (precedes : α → α → Bool) (list : List α) : List α :=
  list.mergeSort precedes

/-- Whether a code point lies in one of the closed ranges of a table. -/
def inRanges (table : List (Nat × Nat)) (code : Nat) : Bool :=
  table.any fun range => range.1 ≤ code && code ≤ range.2

end PseudoLint
