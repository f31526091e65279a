import PseudoLint.Rule.Basic

/-! # The rule on block structure

The first word of a line, if it is written in capitals, opens or closes a block. A word in capitals
that is not reserved is taken for a name if it is known or if what follows it can only follow a
name.
-/

namespace PseudoLint.Rule

/-- What can only follow a name. -/
def nameFollowers : List Text :=
  ["←", "<-", "=", "[", "(", "."]

/-- Whether a first word in capitals is neither reserved nor a name. -/
def isUnknownWord (statement : Statement) (table : SymbolTable) : Bool :=
  let word := statement.firstWord
  let rest := Text.trimStart (statement.text.drop word.length)
  !Keyword.reserved.contains word && !nameFollowers.any (Text.startsWith rest ·) &&
    !table.isKnown word

/-- Moves the block stack by the first word of a line. -/
def moveBlocks (statement : Statement) (blocks : BlockStack) :
    Except Fault (BlockStack × List Finding) :=
  let word := statement.firstWord
  if Keyword.isOpener word then .ok (blocks.push ⟨word, statement.line⟩, [])
  else if Keyword.isCloser word then
    match blocks.close word with
    | (blocks, .unexpected) => .ok (blocks, [.unexpectedCloser word])
    | (blocks, .matched _) => .ok (blocks, [])
    | (blocks, .mismatched _ expected) => .ok (blocks, [.mismatchedCloser expected word])
    | (_, .unknownOpener frame) => .error (.unknownOpener frame.keyword)
  else .ok (blocks, [])

/-- Blocks are closed by the word that belongs to the innermost one. -/
def firstWord : Rule := fun _ statement state =>
  if isAllCapitals statement.firstWord then do
    let unknown :=
      whenever (isUnknownWord statement state.table) (.unknownKeyword statement.firstWord)
    let (blocks, findings) ← moveBlocks statement state.blocks
    pure ({ state with blocks }, unknown ++ findings)
  else .ok (state, [])

end PseudoLint.Rule
