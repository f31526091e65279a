import Mathlib.Algebra.Group.Nat.Defs
import PseudoLint.Proofs.Check.Step
import PseudoLint.Proofs.Finding.Renumbering
import PseudoLint.Proofs.Form.ArrayDeclaration

/-! # Integers as literals

The decimal text of an integer is a literal of ASCII digits, perhaps with a minus sign in front, and
reading the literal gives the integer back, unless it has too many digits. Whatever can be read can
also be written.
-/

namespace PseudoLint.Numeral

theorem isAsciiDigit_of_mem_ofNat {n : Nat} {c : Char} (member : c ∈ ofNat n) :
    isAsciiDigit c = true := by
  have digit := isDigit_of_mem_ofNat member
  simp only [Char.isDigit, Bool.and_eq_true, decide_eq_true_eq, ge_iff_le,
    UInt32.le_iff_toNat_le] at digit
  simp only [isAsciiDigit, Bool.and_eq_true, decide_eq_true_eq]
  exact digit

theorem decimalValue?_of_mem_ofNat {n : Nat} {c : Char} (member : c ∈ ofNat n) :
    decimalValue? c = some (c.toNat - 0x30) := by
  have digit := isAsciiDigit_of_mem_ofNat member
  have ascii : c.toNat < 0x80 := by
    simp only [isAsciiDigit, Bool.and_eq_true, decide_eq_true_eq] at digit
    omega
  rw [decimalValue?, if_pos ascii, if_pos digit]

theorem digitsValue_ofNat (n : Nat) : digitsValue (ofNat n) = n := by
  have fold : ∀ (digits : Text) (value : Nat), (∀ c ∈ digits, c ∈ ofNat n) →
      digits.foldl (fun value digit => value * 10 + (decimalValue? digit).getD 0) value =
        Nat.ofDigitChars 10 digits value := by
    intro digits
    induction digits with
    | nil =>
      intro value _
      rfl
    | cons c rest ih =>
      intro value inside
      obtain ⟨first, others⟩ := List.forall_mem_cons.mp inside
      rw [List.foldl_cons, decimalValue?_of_mem_ofNat first, Option.getD_some, ih _ others,
        Nat.ofDigitChars_cons, Nat.mul_comm]
      rfl
  rw [digitsValue, fold (ofNat n) 0 fun _ member => member, ofNat, Nat.ofDigitChars_ten_toDigits]

namespace Literal

/-- The literal that writes an integer. -/
def ofInt (value : Int) : Literal :=
  ⟨decide (value < 0), ofNat value.natAbs⟩

theorem written_ofInt (value : Int) : (ofInt value).written = Numeral.ofInt value := by
  cases value with
  | ofNat n => simp [written, ofInt, Numeral.ofInt]
  | negSucc n => simp [written, ofInt, Numeral.ofInt, Int.negSucc_lt_zero]

theorem proper_ofInt (value : Int) : (ofInt value).Proper where
  nonempty := Nat.toDigits_ne_nil
  decimal := by
    intro c member
    rw [isDecimal, decimalValue?_of_mem_ofNat member]
    rfl

theorem number_ofInt (value : Int) : (ofInt value).number = value := by
  cases value with
  | ofNat n =>
    have natural : ¬ (n : Int) < 0 := by omega
    simp only [number, ofInt, Int.ofNat_eq_natCast, natural, decide_false, Bool.false_eq_true,
      ↓reduceIte, digitsValue_ofNat, Int.natAbs_natCast]
  | negSucc n =>
    simp only [number, ofInt, Int.negSucc_lt_zero, decide_true, ↓reduceIte, digitsValue_ofNat,
      Int.natAbs_negSucc]
    rfl

end Literal

/-- Whether the decimal text of an integer can be read back. -/
def Readable (value : Int) : Prop :=
  (Literal.ofInt value).digits.length ≤ digitLimit

instance : DecidablePred Readable :=
  fun value => inferInstanceAs (Decidable ((Literal.ofInt value).digits.length ≤ digitLimit))

theorem isSolid_ofInt (value : Int) : (ofInt value).IsSolid := by
  rw [← Literal.written_ofInt]
  exact (Literal.proper_ofInt value).isSolid

/-- In the decimal text of an integer stand only ASCII digits and perhaps a minus sign. -/
theorem chars_ofInt {value : Int} {c : Char} (member : c ∈ ofInt value) :
    isAsciiDigit c = true ∨ c = '-' := by
  cases value with
  | ofNat n => exact .inl (isAsciiDigit_of_mem_ofNat member)
  | negSucc n =>
    rcases List.mem_cons.mp member with sign | digit
    · exact .inr sign
    · exact .inl (isAsciiDigit_of_mem_ofNat digit)

end PseudoLint.Numeral
