import PseudoLint.Rule.Block
import PseudoLint.Rule.Declaration
import PseudoLint.Rule.Shape
import PseudoLint.Rule.Usage
import PseudoLint.Rule.Wording
import PseudoLint.Sweep

/-! # Checking a source

A check passes over the lines with content in order, applying every rule to each, reports the
blocks that are still open and then sweeps over all lines. What it emits may contain duplicates;
its diagnostics do not.
-/

namespace PseudoLint

namespace Rule

/-- The rules for statements in the order in which they are applied. -/
def statementRules : List Rule :=
  [assignmentSign, nameShape, lineShape, firstWord, keywordCase, foreignKeyword, declare, constant,
    subprogram, forShape, caseShape, whileShape, unclosedString, charLiteral, arrayBounds,
    assignmentTarget, usage, callShape, openFile]

/-- The indentation of a line is a multiple of the configured unit. A finding names the unit, which
must not be too long to be written. -/
def indentation (config : Config) (line : Line) : Except Fault (List Finding) :=
  if config.indentUnit = 0 then .error .zeroIndentUnit
  else if Int.fmod line.indent config.indentUnit = 0 then .ok []
  else if Numeral.isWritable config.indentUnit then .ok [.indentation config.indentUnit]
  else .error (.tooManyDigits none)

end Rule

/-- The outcome of a check. -/
structure Check where
  /-- The number of lines of the source. -/
  lineCount : Nat
  /-- Whether any line had content. -/
  hasContent : Bool
  /-- The diagnostics in order of emission, duplicates included. -/
  emitted : List Diagnostic
  /-- What was known at the end of the source. -/
  state : State
deriving DecidableEq, Repr

namespace Check

/-- Applies all rules to one line with content. -/
def inspect (config : Config) (line : Line) (state : State) :
    Except Fault (State × List Diagnostic) := do
  let layout ← Rule.indentation config line
  let (state, findings) ← Rule.sequence Rule.statementRules config line.statement state
  pure (state, (layout ++ findings).map (·.on line.number))

/-- Applies all rules to the lines with content, in order. -/
def pass (config : Config) : List Line → State → Except Fault (State × List Diagnostic)
  | [], state => .ok (state, [])
  | line :: rest, state =>
    if line.isContent then do
      let (state, diagnostics) ← inspect config line state
      let (state, others) ← pass config rest state
      pure (state, diagnostics ++ others)
    else pass config rest state

/-- The finding on a block that is still open. -/
def unmatchedFinding (frame : Frame) : Except Fault Finding :=
  match frame.closer? with
  | some closer => .ok (.unmatchedOpener frame.keyword closer)
  | none => .error (.unknownOpener frame.keyword)

/-- The diagnostics on blocks that are still open, outermost first. -/
def unmatched (blocks : BlockStack) : Except Fault (List Diagnostic) :=
  blocks.unclosed.mapM fun frame => do
    let finding ← unmatchedFinding frame
    pure (finding.on frame.line)

def run (config : Config) (source : Text) : Except Fault Check :=
  let lines := Line.ofSource source
  if Line.anyContent lines then do
    let (state, diagnostics) ← pass config lines {}
    let unmatchedBlocks ← unmatched state.blocks
    let sweeps := Sweep.all state.table (lines.map Line.statement)
    pure ⟨lines.length, true, diagnostics ++ unmatchedBlocks ++ sweeps, state⟩
  else .ok ⟨lines.length, false, [Finding.noContent.on 1], {}⟩

def diagnostics (check : Check) : List Diagnostic :=
  Diagnostic.dedup check.emitted

def isValid (check : Check) : Bool :=
  Diagnostic.allValid check.diagnostics

/-- The symbols of the source as they are listed; none if it has no content. -/
def symbols (check : Check) : List Listing :=
  if check.hasContent then check.state.table.listing else []

end Check

end PseudoLint
