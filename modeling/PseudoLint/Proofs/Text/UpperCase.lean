import PseudoLint.Proofs.Text.Classes
import PseudoLint.Text.CaseMap

/-! # Upper-case forms

On ASCII the full case mapping agrees with the capital forms of the single characters. It drops no
character, and no small ASCII letter comes out of it, not even from a character beyond ASCII. So an
upper-case form is its own capital form.
-/

namespace PseudoLint

/-! ## Capital forms of ASCII characters -/

/-- What holds of the characters with the ASCII codes holds of every ASCII character. -/
theorem of_ascii {holds : Char → Prop} (codes : ∀ code < 0x80, holds (Char.ofNat code)) {c : Char}
    (ascii : c.toNat < 0x80) : holds c := by
  have here := codes c.toNat ascii
  rwa [Char.ofNat_toNat] at here

/-- The capital form of an ASCII character is that of the full case mapping. -/
theorem upperChar_of_ascii {c : Char} (ascii : c.toNat < 0x80) : upperChar c = [c.toUpper] := by
  apply of_ascii _ ascii
  decide

/-- Whether a code point is that of a small ASCII letter. -/
def IsSmall (code : Nat) : Prop :=
  0x61 ≤ code ∧ code ≤ 0x7A

instance (code : Nat) : Decidable (IsSmall code) :=
  inferInstanceAs (Decidable (_ ∧ _))

theorem toUpper_of_not_isSmall {c : Char} (other : ¬ IsSmall c.toNat) : c.toUpper = c := by
  apply dif_neg
  rintro ⟨low, high⟩
  exact other ⟨UInt32.le_iff_toNat_le.mp low, UInt32.le_iff_toNat_le.mp high⟩

/-- Only letters have a capital letter as their capital form. -/
theorem isAsciiLetter_of_toUpper {c : Char} (capital : isAsciiLetter c.toUpper = true) :
    isAsciiLetter c = true := by
  by_cases ascii : c.toNat < 0x80
  · revert capital
    apply of_ascii _ ascii
    decide
  · have other : ¬ IsSmall c.toNat := by
      unfold IsSmall
      omega
    rwa [toUpper_of_not_isSmall other] at capital

/-! ## Characters of upper-case forms -/

/-- No expansion is empty or holds a small letter. -/
theorem expansion_of_lookup {code : Nat} {codes : List Nat}
    (found : upperExpansions.lookup code = some codes) :
    codes ≠ [] ∧ ∀ image ∈ codes, ¬ IsSmall image := by
  have entries : ∀ entry ∈ upperExpansions, entry.2 ≠ [] ∧ ∀ image ∈ entry.2, ¬ IsSmall image := by
    decide +kernel
  obtain ⟨before, behind, split, -⟩ := List.lookup_eq_some_iff.mp found
  exact entries (code, codes) (split ▸ List.mem_append_right _ List.mem_cons_self)

/-- A run that leads into ASCII holds one character only, and leads to a capital letter. -/
theorem not_isSmall_image {run : CaseRun} (listed : run ∈ upperRuns) {code : Nat}
    (covered : run.covers code = true) : ¬ IsSmall (run.image code) := by
  have runs : ∀ run ∈ upperRuns,
      0x7A < run.target ∨ (run.first = run.last ∧ run.target < 0x61) := by
    decide +kernel
  simp only [CaseRun.covers, Bool.and_eq_true, decide_eq_true_eq] at covered
  have target := runs run listed
  unfold IsSmall CaseRun.image
  omega

/-- A code point that is none of a small letter does not become one as a character. -/
theorem not_isSmall_ofNat {code : Nat} (other : ¬ IsSmall code) :
    ¬ IsSmall (Char.ofNat code).toNat := by
  by_cases valid : code.isValidChar
  · rwa [toNat_ofNat_of_isValidChar valid]
  · rw [Char.ofNat, dif_neg valid]
    decide

theorem upperChar_of_expansion {c : Char} (wide : ¬ c.toNat < 0x80) {codes : List Nat}
    (expansion : upperExpansions.lookup c.toNat = some codes) :
    upperChar c = codes.map Char.ofNat := by
  rw [upperChar, if_neg wide, expansion]

theorem upperChar_of_no_expansion {c : Char} (wide : ¬ c.toNat < 0x80)
    (expansion : upperExpansions.lookup c.toNat = none) :
    upperChar c = [Char.ofNat (mapCase upperRuns c.toNat)] := by
  rw [upperChar, if_neg wide, expansion]

/-- How a character arises in the upper-case form of another one: as the capital form of an ASCII
character, out of an expansion, along a run of the table, or unchanged. -/
inductive UpperImage (c : Char) : Char → Prop
  | ascii (plain : c.toNat < 0x80) : UpperImage c c.toUpper
  | expanded {codes : List Nat} {image : Nat} (wide : ¬ c.toNat < 0x80)
      (found : upperExpansions.lookup c.toNat = some codes) (member : image ∈ codes) :
      UpperImage c (Char.ofNat image)
  | moved {run : CaseRun} (wide : ¬ c.toNat < 0x80) (listed : run ∈ upperRuns)
      (covered : run.covers c.toNat = true) : UpperImage c (Char.ofNat (run.image c.toNat))
  | unmapped (wide : ¬ c.toNat < 0x80) (alone : upperChar c = [c]) : UpperImage c c

theorem upperImage_of_mem {c d : Char} (member : d ∈ upperChar c) : UpperImage c d := by
  by_cases ascii : c.toNat < 0x80
  · rw [upperChar_of_ascii ascii, List.mem_singleton] at member
    rw [member]
    exact .ascii ascii
  cases expansion : upperExpansions.lookup c.toNat with
  | some codes =>
    rw [upperChar_of_expansion ascii expansion] at member
    obtain ⟨image, present, rfl⟩ := List.mem_map.mp member
    exact .expanded ascii expansion present
  | none =>
    have mapping := upperChar_of_no_expansion ascii expansion
    cases found : upperRuns.find? (·.covers c.toNat) with
    | some run =>
      have covered : run.covers c.toNat = true :=
        List.find?_some (p := fun run : CaseRun => run.covers c.toNat) found
      have image : mapCase upperRuns c.toNat = run.image c.toNat := by rw [mapCase, found]
      rw [mapping, image, List.mem_singleton] at member
      rw [member]
      exact .moved ascii (List.mem_of_find?_eq_some found) covered
    | none =>
      have alone : upperChar c = [c] := by rw [mapping, mapCase, found, Char.ofNat_toNat]
      rw [alone, List.mem_singleton] at member
      rw [member]
      exact .unmapped ascii alone

/-- No small letter comes out of the upper-case form of a character. -/
theorem not_isSmall_of_mem_upperChar {c d : Char} (member : d ∈ upperChar c) :
    ¬ IsSmall d.toNat := by
  cases upperImage_of_mem member with
  | ascii plain =>
    have capital : ∀ code < 0x80, ¬ IsSmall (Char.ofNat code).toUpper.toNat := by decide
    exact @of_ascii (¬ IsSmall ·.toUpper.toNat) capital c plain
  | expanded _ found image => exact not_isSmall_ofNat ((expansion_of_lookup found).2 _ image)
  | moved _ listed covered => exact not_isSmall_ofNat (not_isSmall_image listed covered)
  | unmapped wide _ =>
    unfold IsSmall
    omega

theorem upperChar_ne_nil (c : Char) : upperChar c ≠ [] := by
  unfold upperChar
  split
  · exact List.cons_ne_nil _ _
  split
  · rename_i codes found
    exact mt List.map_eq_nil_iff.mp (expansion_of_lookup found).1
  · exact List.cons_ne_nil _ _

/-! ## Upper-case forms of texts -/

namespace Text

theorem upper_of_ascii {text : Text} (ascii : ∀ c ∈ text, c.toNat < 0x80) :
    text.upper = text.map Char.toUpper := by
  have each : ∀ c ∈ text, upperChar c = [c.toUpper] :=
    fun c member => upperChar_of_ascii (ascii c member)
  rw [upper, List.map_eq_flatMap, List.flatMap_def, List.flatMap_def, List.map_congr_left each]

theorem upper_ne_nil {text : Text} (nonempty : text ≠ []) : text.upper ≠ [] := by
  obtain ⟨c, rest, rfl⟩ := List.exists_cons_of_ne_nil nonempty
  rw [upper, List.flatMap_cons]
  exact List.append_ne_nil_of_left_ne_nil (upperChar_ne_nil c) _

/-- An upper-case form is its own capital form. -/
theorem map_toUpper_upper (text : Text) : text.upper.map Char.toUpper = text.upper := by
  have each : ∀ d ∈ text.upper, d.toUpper = id d := by
    intro d member
    obtain ⟨c, -, from_c⟩ := List.mem_flatMap.mp member
    exact toUpper_of_not_isSmall (not_isSmall_of_mem_upperChar from_c)
  rw [List.map_congr_left each, List.map_id]

/-! ### Other spellings of a word -/

section

variable {word letters : Text} (plain : ∀ c ∈ word, isAsciiLetter c = true)
  (spelled : letters.map Char.toUpper = word)

include plain spelled

/-- A word of capital letters is spelled in letters only. -/
theorem isAsciiLetter_of_spelled : ∀ c ∈ letters, isAsciiLetter c = true := by
  intro c member
  have capital : c.toUpper ∈ letters.map Char.toUpper := List.mem_map_of_mem member
  rw [spelled] at capital
  exact isAsciiLetter_of_toUpper (plain _ capital)

theorem upper_of_spelled : letters.upper = word := by
  have ascii : ∀ c ∈ letters, c.toNat < 0x80 := by
    intro c member
    have letter := isAsciiLetter_of_spelled plain spelled c member
    exact isAscii_of_isNameChar (by rw [isNameChar, letter, Bool.true_or, Bool.true_or])
  rw [upper_of_ascii ascii, spelled]

end

end Text

end PseudoLint
