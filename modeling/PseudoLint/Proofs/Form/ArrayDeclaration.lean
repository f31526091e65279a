import PseudoLint.Proofs.Form.Trailing
import PseudoLint.Proofs.Identifier
import PseudoLint.Proofs.Text.Respacing

/-! # Reading array declarations

A declaration that spells out a name, a colon and the bounds of an array is read by the form of
array declarations, whatever blanks stand between its parts.
-/

namespace PseudoLint

theorem isSolid_of_isName {name : Text} (named : isName name = true) : name.IsSolid := by
  refine ⟨?_, fun c member => ?_⟩
  · rintro rfl
    cases named
  · exact not_isBlank_of_isWordChar (isWordChar_of_isNameChar (isNameChar_of_mem named member))

namespace Numeral.Literal

/-- A literal as it is written. -/
def written (literal : Literal) : Text :=
  if literal.negative then '-' :: literal.digits else literal.digits

/-- A literal that can be written: it has digits, and all of them are decimal. -/
structure Proper (literal : Literal) : Prop where
  nonempty : literal.digits ≠ []
  decimal : ∀ c ∈ literal.digits, isDecimal c = true

/-- A literal has no blanks. -/
theorem Proper.isSolid {literal : Literal} (proper : literal.Proper) : literal.written.IsSolid := by
  have digits : ∀ c ∈ literal.digits, isBlank c = false :=
    fun c member => not_isBlank_of_isWordChar (isWordChar_of_isDecimal (proper.decimal c member))
  unfold written
  split
  · exact ⟨List.cons_ne_nil _ _, List.forall_mem_cons.mpr ⟨by decide, digits⟩⟩
  · exact ⟨proper.nonempty, digits⟩

theorem Proper.not_mem_written {literal : Literal} (proper : literal.Proper) {c : Char}
    (notDecimal : isDecimal c = false) (notSign : c ≠ '-') : c ∉ literal.written := by
  have outside : c ∉ literal.digits := by
    intro member
    rw [proper.decimal c member] at notDecimal
    cases notDecimal
  unfold written
  split
  · exact List.not_mem_cons_of_ne_of_not_mem notSign outside
  · exact outside

end Numeral.Literal

/-- A stretch of a class ends before the next token if neither blanks nor the token begin with a
character of the class. -/
theorem Text.Spells.takeWhile_eq_nil {rest text : Text} {c : Char} {token : Text}
    {tokens : List Text} {inClass : Char → Bool}
    (spells : Spells rest ((c :: token) :: tokens) text)
    (blank : ∀ d, isBlank d = true → inClass d = false) (outside : inClass c = false) :
    text.takeWhile inClass = [] := by
  cases spells with
  | @cons gap _ behind _ blanks solid others =>
    cases gap with
    | nil => simp [outside]
    | cons d gap => simp [blank d (blanks d List.mem_cons_self)]

theorem Text.takeWhile_dropWhile_append {inClass : Char → Bool} {taken rest : Text}
    (inside : ∀ c ∈ taken, inClass c = true) (stops : rest.takeWhile inClass = []) :
    (taken ++ rest).takeWhile inClass = taken ∧ (taken ++ rest).dropWhile inClass = rest := by
  have behind := List.takeWhile_append_dropWhile (p := inClass) (l := rest)
  rw [stops, List.nil_append] at behind
  rw [List.takeWhile_append_of_pos inside, List.dropWhile_append_of_pos inside, stops, behind]
  exact ⟨List.append_nil taken, rfl⟩

namespace Form

theorem mark_self (c : Char) (rest : Text) : mark c (c :: rest) = some rest := by
  simp [mark]

theorem anyCase_self (word rest : Text) : anyCase word (word ++ rest) = some rest := by
  induction word with
  | nil => rfl
  | cons letter word ih => simp [anyCase, sameLetter, ih]

theorem blanks_cons {c : Char} (blank : isBlank c = true) (rest : Text) :
    blanks (c :: rest) = some (Text.trimStart (c :: rest)) := by
  simp [blanks, Text.trimStart, blank]

/-- A single space in front of a character that is not blank is passed over. -/
theorem blanks_space_cons {c : Char} (solid : isBlank c = false) (rest : Text) :
    blanks (' ' :: c :: rest) = some (c :: rest) := by
  have space : isBlank ' ' = true := by decide
  rw [blanks, if_pos space, Text.trimStart_of_solid rfl solid]

theorem stretch_append_of_inside {inClass : Char → Bool} {taken rest : Text} (nonempty : taken ≠ [])
    (inside : ∀ c ∈ taken, inClass c = true) (stops : rest.takeWhile inClass = []) :
    stretch inClass (taken ++ rest) = Option.some (taken, rest) := by
  obtain ⟨whole, behind⟩ := Text.takeWhile_dropWhile_append inside stops
  simp [stretch, whole, behind, nonempty]

theorem foldedName_append_of_isName {word rest : Text} (named : isName word = true)
    (stops : rest.takeWhile (fun c => isNameChar c || isFoldedLetter c) = []) :
    foldedName (word ++ rest) = some (word, rest) := by
  cases word with
  | nil => cases named
  | cons c word =>
    obtain ⟨starts, letters⟩ := Bool.and_eq_true_iff.mp named
    have inside : ∀ d ∈ word, (isNameChar d || isFoldedLetter d) = true :=
      fun d member => by rw [List.all_eq_true.mp letters d member, Bool.true_or]
    obtain ⟨whole, behind⟩ := Text.takeWhile_dropWhile_append inside stops
    simp [foldedName, starts, whole, behind]

theorem integer_append_written {literal : Numeral.Literal} {rest : Text}
    (proper : literal.Proper) (stops : rest.takeWhile isDecimal = []) :
    integer (literal.written ++ rest) = some (literal, rest) := by
  obtain ⟨negative, digits⟩ := literal
  have read := stretch_append_of_inside proper.nonempty proper.decimal stops
  cases negative with
  | true => simp [integer, Numeral.Literal.written, read]
  | false =>
    have unsigned : ((digits ++ rest).head? == some '-') = false := by
      obtain ⟨c, others, split⟩ := List.exists_cons_of_ne_nil proper.nonempty
      have digit := proper.decimal c (split ▸ List.mem_cons_self)
      rw [show digits = c :: others from split]
      refine beq_false_of_ne fun sign => ?_
      rw [Option.some.inj sign] at digit
      revert digit
      decide
    simp only [integer, Numeral.Literal.written, unsigned, Bool.false_eq_true, ↓reduceIte, read]

/-- The tokens of the bounds of an array. -/
def boundTokens (lower upper : Numeral.Literal) : List Text :=
  ["ARRAY", "[", lower.written, ":", upper.written, "]"]

/-- A declaration that spells out a name, a colon and bounds is read as an array declaration. -/
theorem arrayDeclaration_of_spells {c : Char} {word behind rest : Text}
    {lower upper : Numeral.Literal} (blank : isBlank c = true) (named : isName word = true)
    (properLower : lower.Proper) (properUpper : upper.Proper)
    (spells : Text.Spells rest (word :: ":" :: boundTokens lower upper) (c :: behind)) :
    arrayDeclaration ("DECLARE".toList ++ c :: behind) = some ((word, lower, upper), rest) := by
  have outsideName := stops_foldedName.blanks
  have outsideDigits := (stops_of_wordChar (by decide) fun _ => isWordChar_of_isDecimal).blanks
  -- The tokens are taken off one by one, each as the part of the form that comes next reads it.
  obtain ⟨afterName, nameFirst, spells⟩ := spells.trimStart_eq
  have nameRead := foldedName_append_of_isName named
    (spells.takeWhile_eq_nil outsideName (by decide))
  obtain ⟨afterColon, colonFirst, spells⟩ := spells.trimStart_eq
  obtain ⟨afterArray, arrayFirst, spells⟩ := spells.trimStart_eq
  obtain ⟨afterBracket, bracketFirst, spells⟩ := spells.trimStart_eq
  obtain ⟨afterLower, lowerFirst, spells⟩ := spells.trimStart_eq
  have lowerRead := integer_append_written properLower
    (spells.takeWhile_eq_nil outsideDigits (by decide))
  obtain ⟨afterSecond, secondFirst, spells⟩ := spells.trimStart_eq
  obtain ⟨afterUpper, upperFirst, spells⟩ := spells.trimStart_eq
  have upperRead := integer_append_written properUpper
    (spells.takeWhile_eq_nil outsideDigits (by decide))
  obtain ⟨afterLast, lastFirst, spells⟩ := spells.trimStart_eq
  cases spells
  simp only [arrayDeclaration, bind, Option.bind_eq_some_iff]
  exact ⟨_, anyCase_self _ _, _, blanks_cons blank behind, _, nameFirst ▸ nameRead, _,
    colonFirst ▸ mark_self _ _, _, arrayFirst ▸ anyCase_self _ _, _,
    bracketFirst ▸ mark_self _ _, _, lowerFirst ▸ lowerRead, _, secondFirst ▸ mark_self _ _, _,
    upperFirst ▸ upperRead, _, lastFirst ▸ mark_self _ _, rfl⟩

end Form

end PseudoLint
