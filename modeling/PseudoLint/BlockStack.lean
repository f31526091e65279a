import PseudoLint.Keyword

/-! # Open blocks

The blocks that are open at a point of a source form a stack. A closing word always takes the
innermost block off the stack, whether it is the right one for it or not.
-/

namespace PseudoLint

/-- An open block: the word that opened it and its line. -/
structure Frame where
  keyword : Text
  line : Int
deriving DecidableEq, Repr

/-- The open blocks, innermost first. -/
abbrev BlockStack := List Frame

/-- What a closing word meets. -/
inductive Closing where
  /-- No block is open. -/
  | unexpected
  /-- The innermost block ends with this word. -/
  | matched (frame : Frame)
  /-- The innermost block ends with another word. -/
  | mismatched (frame : Frame) (expected : Text)
  /-- The innermost block was opened by a word that opens no block. -/
  | unknownOpener (frame : Frame)
deriving DecidableEq, Repr

namespace Frame

/-- The word that closes the block. -/
def closer? (frame : Frame) : Option Text :=
  Keyword.closer? frame.keyword

end Frame

namespace BlockStack

def push (stack : BlockStack) (frame : Frame) : BlockStack :=
  frame :: stack

def close (stack : BlockStack) (keyword : Text) : BlockStack × Closing :=
  match stack with
  | [] => ([], .unexpected)
  | frame :: rest =>
    match frame.closer? with
    | none => (rest, .unknownOpener frame)
    | some expected =>
      let fits := keyword == expected || Keyword.tolerated.contains (frame.keyword, keyword)
      (rest, if fits then .matched frame else .mismatched frame expected)

/-- The open blocks, outermost first. -/
def unclosed (stack : BlockStack) : List Frame :=
  stack.reverse

end BlockStack

end PseudoLint
