import PseudoLint.BlockStack
import PseudoLint.Config
import PseudoLint.Finding
import PseudoLint.Line
import PseudoLint.SymbolTable

/-! # Rules

A rule reads one statement in the light of the symbols and blocks known so far. It may add to what
is known, and answers its findings in order. The check of a source stops with a fault only where a
number has too many digits to be read or written, where the unit of indentation is zero or where a
block was opened by a word that opens none.
-/

namespace PseudoLint

/-- What is known at a point of a source. -/
structure State where
  table : SymbolTable := {}
  blocks : BlockStack := []
deriving DecidableEq, Repr

inductive Fault where
  /-- The number of digits is known of a literal that was to be read. -/
  | tooManyDigits (count? : Option Nat)
  | zeroIndentUnit
  | unknownOpener (keyword : Text)
deriving DecidableEq, Repr

/-- The wording of a fault. -/
def Fault.message : Fault → Text
  | .tooManyDigits count? => Numeral.limitMessage count?
  | .zeroIndentUnit => "integer modulo by zero"
  | .unknownOpener keyword => keyword

/-- A rule for single statements. -/
abbrev Rule := Config → Statement → State → Except Fault (State × List Finding)

namespace Rule

def reporting (findings : Config → Statement → State → List Finding) : Rule :=
  fun config statement state => .ok (state, findings config statement state)

/-- A rule that adds to the symbol table and reports. -/
def registering (step : Statement → SymbolTable → SymbolTable × List Finding) : Rule :=
  fun _ statement state =>
    let (table, findings) := step statement state.table
    .ok ({ state with table }, findings)

/-- Applies rules in order; each sees what the ones before it added. -/
def sequence : List Rule → Rule
  | [], _, _, state => .ok (state, [])
  | rule :: rest, config, statement, state => do
    let (state, findings) ← rule config statement state
    let (state, others) ← sequence rest config statement state
    pure (state, findings ++ others)

/-- One finding if a condition holds, and none otherwise. -/
def whenever (condition : Bool) (finding : Finding) : List Finding :=
  if condition then [finding] else []

end Rule

def literalValue (literal : Numeral.Literal) : Except Fault Int :=
  literal.value.mapError fun count => .tooManyDigits (some count)

end PseudoLint
