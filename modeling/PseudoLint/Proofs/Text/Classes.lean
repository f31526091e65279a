import PseudoLint.Identifier
import PseudoLint.Text.Blank
import PseudoLint.Text.Digit

/-! # How the classes of characters lie to each other

Characters of names and decimal digits of any script are word characters, and no word character is
blank. Beyond ASCII these are facts about the tables, which are compared range by range.
-/

namespace PseudoLint

theorem toNat_ofNat_of_isValidChar {code : Nat} (valid : code.isValidChar) :
    (Char.ofNat code).toNat = code := by
  rw [Char.ofNat, dif_pos valid]
  rfl

theorem inRanges_iff {table : List (Nat × Nat)} {code : Nat} :
    inRanges table code = true ↔ ∃ range ∈ table, range.1 ≤ code ∧ code ≤ range.2 := by
  simp only [inRanges, List.any_eq_true, Bool.and_eq_true, decide_eq_true_eq]

theorem inRanges_of_within {small large : List (Nat × Nat)} {code : Nat}
    (within : small.all (fun inner => large.any fun outer =>
      outer.1.ble inner.1 && inner.2.ble outer.2) = true)
    (present : inRanges small code = true) : inRanges large code = true := by
  simp only [List.all_eq_true, List.any_eq_true, Bool.and_eq_true, Nat.ble_eq] at within
  obtain ⟨inner, member, low, high⟩ := inRanges_iff.mp present
  obtain ⟨outer, there, below, above⟩ := within inner member
  exact inRanges_iff.mpr ⟨outer, there, by omega, by omega⟩

/-- Whether two tables of ranges have a code point in common. -/
def overlap (first second : List (Nat × Nat)) : Bool :=
  first.any fun one => second.any fun other => other.1.ble one.2 && one.1.ble other.2

theorem not_inRanges_of_apart {first second : List (Nat × Nat)} {code : Nat}
    (apart : overlap first second = false) (present : inRanges first code = true) :
    inRanges second code = false := by
  simp only [overlap, List.any_eq_false] at apart
  obtain ⟨one, member, low, high⟩ := inRanges_iff.mp present
  rw [Bool.eq_false_iff]
  intro also
  obtain ⟨other, there, below, above⟩ := inRanges_iff.mp also
  exact apart one member (List.any_eq_true.mpr ⟨other, there, by simp; omega⟩)

theorem isNameChar_of_isNameStart {c : Char} (starts : isNameStart c = true) :
    isNameChar c = true := by
  simp only [isNameStart, isNameChar, Bool.or_eq_true] at starts ⊢
  rcases starts with letter | underscore
  · exact .inl (.inl letter)
  · exact .inr underscore

theorem isAscii_of_isNameChar {c : Char} (inName : isNameChar c = true) : c.toNat < 0x80 := by
  simp only [isNameChar, isAsciiLetter, isAsciiDigit, Bool.or_eq_true, Bool.and_eq_true,
    decide_eq_true_eq, beq_iff_eq] at inName
  rcases inName with (letter | digit) | rfl
  · omega
  · omega
  · decide

theorem isAscii_of_isNameStart {c : Char} (starts : isNameStart c = true) : c.toNat < 0x80 :=
  isAscii_of_isNameChar (isNameChar_of_isNameStart starts)

theorem isWordChar_of_isNameChar {c : Char} (inName : isNameChar c = true) :
    isWordChar c = true := by
  simp only [isWordChar, isAscii_of_isNameChar inName, ↓reduceIte]
  exact inName

theorem isWordChar_of_isDecimal {c : Char} (digit : isDecimal c = true) : isWordChar c = true := by
  have within : decimalRanges.all (fun inner => alphanumericRanges.any fun outer =>
      outer.1.ble inner.1 && inner.2.ble outer.2) = true := by decide +kernel
  by_cases ascii : c.toNat < 0x80
  · simp only [isDecimal, decimalValue?, ascii, ↓reduceIte] at digit
    simp only [isWordChar, ascii, ↓reduceIte]
    cases number : isAsciiDigit c with
    | true => simp
    | false => simp [number] at digit
  · simp only [isDecimal, decimalValue?, ascii, ↓reduceIte, Option.isSome_map] at digit
    simp only [isWordChar, ascii, ↓reduceIte]
    apply inRanges_of_within within
    obtain ⟨range, found⟩ := Option.isSome_iff_exists.mp digit
    have bounds := List.find?_some found
    simp only [Bool.and_eq_true, decide_eq_true_eq] at bounds
    exact inRanges_iff.mpr ⟨range, List.mem_of_find?_eq_some found, bounds⟩

/-- A decimal digit begins no name. -/
theorem not_isNameStart_of_isDecimal {c : Char} (digit : isDecimal c = true) :
    isNameStart c = false := by
  rw [Bool.eq_false_iff]
  intro starts
  have ascii := isAscii_of_isNameStart starts
  have number : isAsciiDigit c = true := by
    simp only [isDecimal, decimalValue?, ascii, ↓reduceIte] at digit
    by_cases number : isAsciiDigit c = true
    · exact number
    · simp [number] at digit
  simp only [isNameStart, isAsciiLetter, isAsciiDigit, Bool.or_eq_true, Bool.and_eq_true,
    decide_eq_true_eq, beq_iff_eq] at starts number
  rcases starts with letter | rfl
  · omega
  · have low : '_'.toNat ≤ 0x39 := number.2
    exact absurd low (by decide)

/-- What begins a name is no digit of any kind. -/
theorem not_isDigit_of_isNameStart {c : Char} (starts : isNameStart c = true) :
    isDigit c = false := by
  have high : ∀ range ∈ otherDigitRanges, 0x80 ≤ range.1 := by decide
  have ascii := isAscii_of_isNameStart starts
  have notDecimal : isDecimal c = false := by
    rw [Bool.eq_false_iff]
    intro digit
    rw [not_isNameStart_of_isDecimal digit] at starts
    cases starts
  have notOther : inRanges otherDigitRanges c.toNat = false := by
    rw [Bool.eq_false_iff]
    intro present
    obtain ⟨range, member, low, -⟩ := inRanges_iff.mp present
    have bound := high range member
    omega
  rw [isDigit, notDecimal, notOther, Bool.or_self]

theorem not_isBlank_of_isWordChar {c : Char} (inWord : isWordChar c = true) :
    isBlank c = false := by
  have apart : overlap alphanumericRanges blankRanges = false := by decide +kernel
  by_cases ascii : c.toNat < 0x80
  · simp only [isWordChar, isAsciiLetter, isAsciiDigit, ascii, ↓reduceIte, Bool.or_eq_true,
      Bool.and_eq_true, decide_eq_true_eq, beq_iff_eq] at inWord
    simp only [isBlank, ascii, ↓reduceIte, Bool.or_eq_false_iff, Bool.and_eq_false_iff,
      decide_eq_false_iff_not]
    rcases inWord with (letter | digit) | rfl
    · omega
    · omega
    · decide
  · simp only [isWordChar, ascii, ↓reduceIte] at inWord
    simp only [isBlank, ascii, ↓reduceIte]
    exact not_inRanges_of_apart apart inWord

end PseudoLint
