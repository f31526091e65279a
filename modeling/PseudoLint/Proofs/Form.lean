import PseudoLint.Form
import PseudoLint.Proofs.Text.Pieces

/-! # Forms that need a character

What a form leaves is the end of the text it read. So a form that asks for some character fits
nowhere in a text without it.
-/

namespace PseudoLint.Form

variable {α : Type}

/-! ## What the parts leave -/

theorem trimStart_suffix (text : Text) : text.trimStart <:+ text :=
  List.dropWhile_suffix isBlank

theorem mark_suffix {c : Char} {text rest : Text} (read : mark c text = some rest) :
    rest <:+ text := by
  cases text with
  | nil => cases read
  | cons d tail =>
    simp only [mark] at read
    split at read
    · cases read
      exact List.suffix_cons d _
    · cases read

theorem mem_of_mark {c : Char} {text rest : Text} (read : mark c text = some rest) : c ∈ text := by
  cases text with
  | nil => cases read
  | cons d tail =>
    simp only [mark] at read
    split at read
    · rename_i same
      rw [beq_iff_eq.mp same]
      exact List.mem_cons_self
    · cases read

theorem anyCase_suffix {word text rest : Text} (read : anyCase word text = some rest) :
    rest <:+ text := by
  induction word generalizing text with
  | nil =>
    cases read
    exact List.suffix_refl _
  | cons letter word ih =>
    cases text with
    | nil => cases read
    | cons c tail =>
      simp only [anyCase] at read
      split at read
      · exact (ih read).trans (List.suffix_cons c tail)
      · cases read

theorem blanks_suffix {text rest : Text} (read : blanks text = some rest) : rest <:+ text := by
  cases text with
  | nil => cases read
  | cons c tail =>
    simp only [blanks] at read
    split at read
    · cases read
      exact (trimStart_suffix tail).trans (List.suffix_cons c tail)
    · cases read

theorem name_suffix {text found rest : Text} (read : name text = some (found, rest)) :
    rest <:+ text := by
  cases text with
  | nil => cases read
  | cons c tail =>
    simp only [name] at read
    split at read
    · cases read
      exact (List.dropWhile_suffix isNameChar).trans (List.suffix_cons c tail)
    · cases read

theorem foldedName_suffix {text found rest : Text} (read : foldedName text = some (found, rest)) :
    rest <:+ text := by
  cases text with
  | nil => cases read
  | cons c tail =>
    simp only [foldedName] at read
    split at read
    · cases read
      exact (List.dropWhile_suffix _).trans (List.suffix_cons c tail)
    · cases read

/-! ## Forms without a place -/

/-- What a form finds first, it finds at some place. -/
theorem exists_of_first? {form : Form α} {text : Text} {value : α}
    (found : form.first? text = some value) : ∃ place rest, form place = some (value, rest) := by
  induction text with
  | nil => cases found
  | cons c tail ih =>
    rw [first?] at found
    split at found
    · rename_i fits
      cases found
      exact ⟨_, _, fits⟩
    · exact ih found

/-- A form fits only texts that contain the character `c`. -/
def Needs (form : Form α) (c : Char) : Prop :=
  ∀ text found, form text = some found → c ∈ text

theorem Needs.first?_eq_none {form : Form α} {c : Char} (needs : form.Needs c) {text : Text}
    (free : c ∉ text) : form.first? text = none := by
  induction text with
  | nil => rfl
  | cons d rest ih =>
    cases fits : form (d :: rest) with
    | none =>
      simp only [first?, fits]
      exact ih fun member => free (List.mem_cons_of_mem _ member)
    | some found => exact absurd (needs _ _ fits) free

theorem Needs.all_eq_nil {form : Form α} {c : Char} (needs : form.Needs c) {text : Text}
    (free : c ∉ text) : form.all text = [] := by
  unfold all
  induction text with
  | nil => rfl
  | cons d rest ih =>
    cases fits : form (d :: rest) with
    | none =>
      simp only [allFrom, fits]
      exact ih fun member => free (List.mem_cons_of_mem _ member)
    | some found => exact absurd (needs _ _ fits) free

theorem arrayAccess_needs : arrayAccess.Needs '[' := by
  intro text found fits
  simp only [arrayAccess, bind, Option.bind_eq_some_iff] at fits
  obtain ⟨⟨name, rest⟩, named, after, opened, -⟩ := fits
  exact (name_suffix named).subset (mem_of_mark opened)

theorem arrayDeclaration_needs : arrayDeclaration.Needs '[' := by
  intro text found fits
  simp only [arrayDeclaration, bind, Option.bind_eq_some_iff] at fits
  obtain ⟨declared, first, spaced, second, ⟨name, rest⟩, named, typed, colon, array, word, after,
    opened, -⟩ := fits
  have rest_suffix := (foldedName_suffix named).trans ((blanks_suffix second).trans
    (anyCase_suffix first))
  have typed_suffix := (mark_suffix colon).trans ((trimStart_suffix rest).trans rest_suffix)
  have array_suffix := (anyCase_suffix word).trans ((trimStart_suffix typed).trans typed_suffix)
  exact ((trimStart_suffix array).trans array_suffix).subset (mem_of_mark opened)

theorem lengthArgument_needs : lengthArgument.Needs '(' := by
  intro text found fits
  simp only [lengthArgument, bind, Option.bind_eq_some_iff] at fits
  obtain ⟨word, read, after, opened, -⟩ := fits
  exact ((trimStart_suffix word).trans (anyCase_suffix read)).subset (mem_of_mark opened)

theorem stringAssignment_needs_arrow : stringAssignment.Needs assignArrow := by
  intro text found fits
  simp only [stringAssignment, bind, Option.bind_eq_some_iff] at fits
  obtain ⟨⟨name, rest⟩, named, after, arrow, -⟩ := fits
  exact ((trimStart_suffix rest).trans (name_suffix named)).subset (mem_of_mark arrow)

theorem stringAssignment_needs_quote : stringAssignment.Needs '"' := by
  intro text found fits
  simp only [stringAssignment, bind, Option.bind_eq_some_iff] at fits
  obtain ⟨⟨name, rest⟩, named, after, arrow, literal, quote, -⟩ := fits
  have after_suffix := (mark_suffix arrow).trans ((trimStart_suffix rest).trans (name_suffix named))
  exact ((trimStart_suffix after).trans after_suffix).subset (mem_of_mark quote)

end PseudoLint.Form
