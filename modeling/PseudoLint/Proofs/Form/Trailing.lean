import PseudoLint.Proofs.Form
import PseudoLint.Proofs.Text.Classes
import PseudoLint.Proofs.Text.Trailing

/-! # Forms in front of a comment

A form that fits at the start of a text fits in the same way when blanks and a slash follow, since
no part of it reads a slash and no stretch goes past the end of the text. Names and marks at the
start are found exactly if they are found without what follows.
-/

namespace PseudoLint

theorem stops_of_wordChar {inClass : Char → Bool} (slash : inClass '/' = false)
    (inside : ∀ c, inClass c = true → isWordChar c = true) : Text.ToSlash.Stops inClass where
  slash := slash
  blanks c blank := by
    rw [Bool.eq_false_iff]
    intro member
    rw [not_isBlank_of_isWordChar (inside c member)] at blank
    cases blank

theorem stops_isWordChar : Text.ToSlash.Stops isWordChar :=
  stops_of_wordChar (by decide) fun _ inside => inside

theorem stops_isNameChar : Text.ToSlash.Stops isNameChar :=
  stops_of_wordChar (by decide) fun _ inside => isWordChar_of_isNameChar inside

theorem stops_foldedName :
    Text.ToSlash.Stops fun c => isNameChar c || Form.isFoldedLetter c := by
  refine stops_of_wordChar (by decide) fun c inside => ?_
  rcases Bool.or_eq_true_iff.mp inside with name | folded
  · exact isWordChar_of_isNameChar name
  · simp only [Form.isFoldedLetter, Bool.or_eq_true, beq_iff_eq] at folded
    rcases folded with ((rfl | rfl) | rfl) | rfl <;> decide +kernel

namespace Form

variable {α : Type} {text tail rest : Text}

theorem anyCase_append {word : Text} (read : anyCase word text = some rest) (tail : Text) :
    anyCase word (text ++ tail) = some (rest ++ tail) := by
  induction word generalizing text with
  | nil =>
    cases read
    rfl
  | cons letter word ih =>
    cases text with
    | nil => cases read
    | cons c others =>
      simp only [anyCase] at read
      split at read
      · rename_i same
        simp only [List.cons_append, anyCase, same, ↓reduceIte, ih read]
      · cases read

theorem blanks_append (read : blanks text = some rest) (more : rest ≠ []) (tail : Text) :
    blanks (text ++ tail) = some (rest ++ tail) := by
  cases text with
  | nil => cases read
  | cons c others =>
    simp only [blanks] at read
    split at read
    · rename_i blank
      cases read
      simp only [List.cons_append, blanks, blank, ↓reduceIte, Text.trimStart_append more]
    · cases read

theorem mark_append {c : Char} (read : mark c text = some rest) (tail : Text) :
    mark c (text ++ tail) = some (rest ++ tail) := by
  cases text with
  | nil => cases read
  | cons d others =>
    simp only [mark] at read
    split at read
    · rename_i same
      cases read
      simp only [List.cons_append, mark, same, ↓reduceIte]
    · cases read

theorem foldedName_append {found : Text} (read : foldedName text = some (found, rest))
    (behind : Text.ToSlash tail) : foldedName (text ++ tail) = some (found, rest ++ tail) := by
  cases text with
  | nil => cases read
  | cons c others =>
    simp only [foldedName] at read
    split at read
    · rename_i starts
      cases read
      simp only [List.cons_append, foldedName, starts, ↓reduceIte,
        behind.takeWhile_append stops_foldedName, behind.dropWhile_append stops_foldedName]
    · cases read

theorem stretch_append {inClass : Char → Bool} {found : Text}
    (read : stretch inClass text = some (found, rest))
    (stops : rest ≠ [] ∨ Text.ToSlash.Stops inClass) (behind : Text.ToSlash tail) :
    stretch inClass (text ++ tail) = some (found, rest ++ tail) := by
  simp only [stretch] at read
  split at read
  · cases read
  rename_i nonempty
  cases read
  have dropped : (text ++ tail).dropWhile inClass = text.dropWhile inClass ++ tail := by
    rcases stops with more | stops
    · rw [List.dropWhile_append, if_neg (by simpa using more)]
    · exact behind.dropWhile_append stops text
  have taken := Text.takeWhile_append_eq_iff.mpr dropped
  simp only [stretch, taken, dropped, nonempty, Bool.false_eq_true, ↓reduceIte]

theorem constantName_append {found : Text} (fits : constantName text = some (found, rest))
    (behind : Text.ToSlash tail) : constantName (text ++ tail) = some (found, rest ++ tail) := by
  simp only [constantName, bind, Option.bind_eq_some_iff] at fits ⊢
  obtain ⟨spaced, word, named, space, ⟨name, after⟩, read, value, equals, same⟩ := fits
  cases same
  have namedSome : named ≠ [] := by rintro rfl; cases read
  have afterSome : after.trimStart ≠ [] := fun nothing => by rw [nothing] at equals; cases equals
  refine ⟨_, anyCase_append word tail, _, blanks_append space namedSome tail, _,
    foldedName_append read behind, _, ?_, rfl⟩
  rw [Text.trimStart_append afterSome]
  exact mark_append equals tail

theorem constantName_needs : constantName.Needs '=' := by
  intro text found fits
  simp only [constantName, bind, Option.bind_eq_some_iff] at fits
  obtain ⟨spaced, word, named, space, ⟨name, after⟩, read, value, equals, -⟩ := fits
  have suffix := (trimStart_suffix after).trans ((foldedName_suffix read).trans
    ((blanks_suffix space).trans (anyCase_suffix word)))
  exact suffix.subset (mem_of_mark equals)

theorem callName_append {found : Text} (fits : callName text = some (found, rest))
    (behind : Text.ToSlash tail) : callName (text ++ tail) = some (found, rest ++ tail) := by
  simp only [callName, bind, Option.bind_eq_some_iff] at fits ⊢
  obtain ⟨spaced, word, named, space, read⟩ := fits
  have namedSome : named ≠ [] := by rintro rfl; cases read
  exact ⟨_, anyCase_append word tail, _, blanks_append space namedSome tail,
    foldedName_append read behind⟩

theorem fileMode_append {found : Text} (fits : fileMode text = some (found, rest))
    (behind : Text.ToSlash tail) : fileMode (text ++ tail) = some (found, rest ++ tail) := by
  simp only [fileMode, bind, Option.bind_eq_some_iff] at fits ⊢
  obtain ⟨spaced, word, file, space, ⟨name, after⟩, read, preposition, gap, spacedMode, keyword,
    mode, last, taken⟩ := fits
  have fileSome : file ≠ [] := by rintro rfl; cases read
  have afterSome : after ≠ [] := by rintro rfl; cases gap
  have prepositionSome : preposition ≠ [] := by rintro rfl; cases keyword
  have modeSome : mode ≠ [] := by rintro rfl; cases taken
  exact ⟨_, anyCase_append word tail, _, blanks_append space fileSome tail, _,
    stretch_append read (.inl afterSome) behind, _, blanks_append gap prepositionSome tail, _,
    anyCase_append keyword tail, _, blanks_append last modeSome tail,
    stretch_append taken (.inr stops_isWordChar) behind⟩

/-- A form that fits at the start of a text is found there. -/
theorem first?_of_fits {form : Form α} {value : α} (nonempty : text ≠ [])
    (fits : form text = Option.some (value, rest)) : form.first? text = Option.some value := by
  obtain ⟨c, others, rfl⟩ := List.exists_cons_of_ne_nil nonempty
  simp only [first?, fits]

/-- A form that fits at the start of a text is found there with and without a comment. -/
theorem first?_append {form : Form α} (nonempty : text ≠ []) (fits : (form text).isSome = true)
    (behind : Text.ToSlash tail)
    (append : ∀ {value rest}, form text = Option.some (value, rest) → Text.ToSlash tail →
      form (text ++ tail) = Option.some (value, rest ++ tail)) :
    form.first? (text ++ tail) = form.first? text := by
  obtain ⟨⟨value, rest⟩, found⟩ := Option.isSome_iff_exists.mp fits
  rw [first?_of_fits nonempty found]
  exact first?_of_fits (List.append_ne_nil_of_left_ne_nil nonempty tail) (append found behind)

/-! ### Names at the start -/

/-- A mark that is no slash is found behind the blanks of a text and not in the comment. -/
theorem mark_trimStart_append {c : Char} (other : c ≠ '/') (behind : Text.ToSlash tail)
    (text : Text) :
    mark c (text ++ tail).trimStart = (mark c text.trimStart).map (· ++ tail) := by
  by_cases blank : text.trimStart = []
  · have passed : (text ++ tail).trimStart = tail.trimStart := by
      rw [Text.trimStart, List.dropWhile_append]
      exact if_pos (List.isEmpty_iff.mpr blank)
    obtain ⟨rest, slashed⟩ := behind.trimStart_eq
    simp [passed, slashed, blank, mark, other.symm]
  · rw [Text.trimStart_append blank]
    obtain ⟨d, others, split⟩ := List.exists_cons_of_ne_nil blank
    rw [split, List.cons_append]
    simp only [mark]
    split <;> rfl

theorem name_append (nonempty : text ≠ []) (behind : Text.ToSlash tail) :
    name (text ++ tail) = (name text).map fun found => (found.1, found.2 ++ tail) := by
  obtain ⟨c, others, rfl⟩ := List.exists_cons_of_ne_nil nonempty
  simp only [List.cons_append, name, behind.takeWhile_append stops_isNameChar,
    behind.dropWhile_append stops_isNameChar]
  split <;> rfl

theorem assignedName_append (nonempty : text ≠ []) (behind : Text.ToSlash tail) :
    assignedName (text ++ tail) = assignedName text := by
  simp only [assignedName, name_append nonempty behind]
  cases name text with
  | none => rfl
  | some found =>
    simp only [Option.map_some, bind, Option.bind_some,
      mark_trimStart_append (show assignArrow ≠ '/' by decide) behind]
    cases mark assignArrow found.2.trimStart <;> rfl

theorem beginsWithEquation_append (nonempty : text ≠ []) (behind : Text.ToSlash tail) :
    beginsWithEquation (text ++ tail) = beginsWithEquation text := by
  simp only [beginsWithEquation, name_append nonempty behind]
  cases name text with
  | none => rfl
  | some found =>
    simp only [Option.map_some, mark_trimStart_append (show '=' ≠ '/' by decide) behind,
      Option.isSome_map]

/-- No string is assigned in a line whose strings stand in a comment without an assignment sign. -/
theorem first?_stringAssignment_append (quotes : '"' ∉ text) (arrow : assignArrow ∉ tail)
    (behind : Text.ToSlash tail) : stringAssignment.first? (text ++ tail) = none := by
  induction text with
  | nil => exact stringAssignment_needs_arrow.first?_eq_none arrow
  | cons c others ih =>
    have here : stringAssignment (c :: others ++ tail) = none := by
      rw [Option.eq_none_iff_forall_ne_some]
      intro found fits
      simp only [stringAssignment, bind, Option.bind_eq_some_iff,
        name_append (List.cons_ne_nil c others) behind, Option.map_eq_some_iff] at fits
      obtain ⟨-, ⟨⟨name, after⟩, named, rfl⟩, literal, assigned, string, opened, -⟩ := fits
      simp only [mark_trimStart_append (show assignArrow ≠ '/' by decide) behind,
        Option.map_eq_some_iff] at assigned
      obtain ⟨value, arrowRead, rfl⟩ := assigned
      simp only [mark_trimStart_append (show '"' ≠ '/' by decide) behind,
        Option.map_eq_some_iff] at opened
      obtain ⟨inside, quote, -⟩ := opened
      have valueSuffix : value.trimStart <:+ c :: others :=
        (trimStart_suffix value).trans ((mark_suffix arrowRead).trans
          ((trimStart_suffix after).trans (name_suffix named)))
      exact quotes (valueSuffix.subset (mem_of_mark quote))
    rw [List.cons_append] at here ⊢
    simp only [first?, here]
    exact ih fun member => quotes (List.mem_cons_of_mem _ member)

end Form

end PseudoLint
