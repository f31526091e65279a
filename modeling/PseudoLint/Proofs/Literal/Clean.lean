import PseudoLint.Proofs.Literal.Hidden

/-! # Clean code

The code of a line is clean: nothing is left in it that would be removed from a line. A removed
literal may bring slashes or quotes together that stood apart, but what one step brings together a
later step takes out, and what an earlier step took out does not come back, since each step leaves a
part of what it was given. Clean texts are those that are their own code (`codeOf_eq_self`).
-/

namespace PseudoLint

/-! ## Quotes -/

theorem count_outsideQuotes_le {quote : Char} {stretches : List Text}
    (free : ∀ stretch ∈ stretches, quote ∉ stretch) :
    (outsideQuotes quote stretches).count quote ≤ 1 := by
  fun_induction outsideQuotes quote stretches with
  | case1 => exact Nat.zero_le 1
  | case2 outside =>
    have none : outside.count quote = 0 := List.count_eq_zero.mpr (free outside List.mem_cons_self)
    omega
  | case3 outside unclosed =>
    have before : outside.count quote = 0 :=
      List.count_eq_zero.mpr (free outside List.mem_cons_self)
    have behind : unclosed.count quote = 0 :=
      List.count_eq_zero.mpr (free unclosed (List.mem_cons_of_mem _ List.mem_cons_self))
    rw [List.count_append, List.count_cons_self]
    omega
  | case4 outside inside rest _ ih =>
    have before : outside.count quote = 0 :=
      List.count_eq_zero.mpr (free outside List.mem_cons_self)
    have later := ih fun stretch member =>
      free stretch (List.mem_cons_of_mem _ (List.mem_cons_of_mem _ member))
    rw [List.count_append]
    omega

/-- At most the last quote of a text is left without a partner. -/
theorem count_dropQuoted_le (quote : Char) (text : Text) :
    (dropQuoted quote text).count quote ≤ 1 :=
  count_outsideQuotes_le fun _ => Text.not_mem_of_mem_splitOn

theorem dropQuoted_of_count_le {quote : Char} {text : Text} (single : text.count quote ≤ 1) :
    dropQuoted quote text = text := by
  by_cases member : quote ∈ text
  · obtain ⟨before, behind, rfl, free⟩ := List.eq_append_cons_of_mem member
    have last : quote ∉ behind := by
      rw [List.count_append, List.count_cons_self] at single
      exact List.count_eq_zero.mp (by omega)
    rw [dropQuoted_append free, dropQuoted_unclosed last]
  · exact dropQuoted_of_free member

/-! ## Comments -/

/-- On one line a comment runs to the end, so what is left is a beginning of the line. -/
theorem dropComment_isPrefix {text : Text} (free : '\n' ∉ text) : dropComment text <+: text := by
  induction text with
  | nil => exact List.prefix_refl []
  | cons c rest ih =>
    rw [dropComment]
    split
    · rw [Text.dropWhile_of_free free]
      exact List.nil_prefix
    · exact List.cons_prefix_cons.mpr ⟨rfl, ih fun member => free (List.mem_cons_of_mem _ member)⟩

theorem hasInfix_dropComment {text : Text} (free : '\n' ∉ text) :
    (dropComment text).hasInfix "//" = false := by
  induction text with
  | nil => rfl
  | cons c rest ih =>
    have restFree : '\n' ∉ rest := fun member => free (List.mem_cons_of_mem _ member)
    rw [dropComment]
    split
    · rw [Text.dropWhile_of_free free]
      rfl
    · rename_i plain
      rw [Text.hasInfix, ih restFree, Bool.or_false, Bool.eq_false_iff]
      intro slashes
      -- Two slashes at the head of what is left would begin the text too.
      have starts : Text.startsWith (c :: rest) "//" = true := by
        rw [List.isPrefixOf_iff_prefix] at slashes
        rw [Text.startsWith, List.isPrefixOf_iff_prefix]
        exact slashes.trans (List.cons_prefix_cons.mpr ⟨rfl, dropComment_isPrefix restFree⟩)
      apply plain
      simp only [beginsComment, starts, Text.dropWhile_of_free free, List.isEmpty_nil,
        Bool.true_or, Bool.and_self]

/-! ## Clean texts -/

/-- A text in which nothing is left to remove. -/
structure IsClean (text : Text) : Prop where
  quotes : '"' ∉ text
  apostrophes : text.count '\'' ≤ 1
  uncommented : text.hasInfix "//" = false
  begins : text.head?.any isBlank = false
  ends : text.getLast?.any isBlank = false

/-- From a text without literals and comments only the blanks around it are removed. -/
theorem codeOf_eq_trim {text : Text} (quotes : '"' ∉ text) (apostrophes : text.count '\'' ≤ 1)
    (uncommented : text.hasInfix "//" = false) : codeOf text = text.trim := by
  rw [codeOf, dropQuoted_of_free quotes, Text.takeWhile_of_free quotes,
    dropQuoted_of_count_le apostrophes, dropComment_of_absent uncommented]

theorem IsClean.codeOf_eq_self {text : Text} (clean : IsClean text) : codeOf text = text := by
  rw [codeOf_eq_trim clean.quotes clean.apostrophes clean.uncommented,
    Text.trim_of_trimmed clean.begins clean.ends]

theorem isClean_codeOf {text : Text} (free : '\n' ∉ text) : IsClean (codeOf text) := by
  have noStrings : '"' ∉ (dropQuoted '"' text).takeWhile (· != '"') := Text.not_mem_takeWhile _ _
  have cutFree : '\n' ∉ (dropQuoted '"' text).takeWhile (· != '"') := fun member =>
    not_mem_dropQuoted free (by decide) ((List.takeWhile_sublist _).subset member)
  unfold codeOf
  generalize (dropQuoted '"' text).takeWhile (· != '"') = outside at noStrings cutFree
  have lineFree : '\n' ∉ dropQuoted '\'' outside := not_mem_dropQuoted cutFree (by decide)
  -- Taking out the comment and the blanks leaves a stretch of the text without literals.
  have within : Text.trim (dropComment (dropQuoted '\'' outside)) <:+: dropQuoted '\'' outside :=
    (Text.trim_isInfix _).trans (dropComment_isPrefix lineFree).isInfix
  obtain ⟨begins, ends⟩ := Text.trimmed_trim (dropComment (dropQuoted '\'' outside))
  exact {
    quotes := fun member => not_mem_dropQuoted noStrings (by decide) (within.subset member)
    apostrophes := Nat.le_trans (within.sublist.count_le _) (count_dropQuoted_le '\'' outside)
    uncommented :=
      Text.hasInfix_eq_false_of_infix (Text.trim_isInfix _) (hasInfix_dropComment lineFree)
    begins := begins
    ends := ends }

/-- The code of a line is clean and its own code. A line is its own code exactly if it is clean, and
a line that begins with a comment has no code. -/
theorem codeOf_clean_and_stable {text : Text} (free : '\n' ∉ text) :
    IsClean (codeOf text) ∧ codeOf (codeOf text) = codeOf text ∧
      (codeOf text = text ↔ IsClean text) ∧
      (text.startsWith "//" = true → codeOf text = []) := by
  refine ⟨isClean_codeOf free, (isClean_codeOf free).codeOf_eq_self, ⟨?_, ?_⟩, ?_⟩
  · intro unchanged
    exact unchanged ▸ isClean_codeOf free
  · exact IsClean.codeOf_eq_self
  · intro commented
    obtain ⟨rest, rfl⟩ := List.isPrefixOf_iff_prefix.mp commented
    have restFree : '\n' ∉ rest := fun member => free (List.mem_append_right _ member)
    exact codeOf_comment restFree

/-- The slashes around a removed string begin a comment, which takes the quote behind it along, and
the quotes of a comment open nothing. -/
theorem codeOf_slashes_around_string :
    let text : Text := "OUTPUT 8 /\"it's\"/ it's"
    let comment : Text := "// it's \"open"
    '\n' ∉ text ∧ codeOf text = "OUTPUT 8" ∧ IsClean "OUTPUT 8" ∧
      '\n' ∉ comment ∧ comment.startsWith "//" = true ∧ codeOf comment = [] := by
  intro text comment
  have facts : '\n' ∉ text ∧ codeOf text = "OUTPUT 8" ∧
      '\n' ∉ comment ∧ comment.startsWith "//" = true := by decide
  obtain ⟨free, code, commentFree, begins⟩ := facts
  have clean := (codeOf_clean_and_stable free).1
  have nothing := (codeOf_clean_and_stable commentFree).2.2.2 begins
  exact ⟨free, code, code ▸ clean, commentFree, begins, nothing⟩

end PseudoLint
