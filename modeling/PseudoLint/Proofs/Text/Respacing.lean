import PseudoLint.Proofs.Text.Trailing
import PseudoLint.Proofs.TypeText

/-! # Texts that differ in their blanks

Two texts with the same words, of which both or neither begin with a word, agree up to the number
and kind of blanks at each place where there are some. So a text that spells a sequence of tokens,
with or without blanks in front of each, still does so after its blanks have been normalized, and
the other way round.
-/

namespace PseudoLint.Text

/-- Whether a text begins with a character that is not blank. -/
def beginsSolid (text : Text) : Bool :=
  text.head?.any (!isBlank ·)

theorem beginsSolid_iff {text : Text} :
    text.beginsSolid = true ↔ ∃ c rest, text = c :: rest ∧ isBlank c = false := by
  cases text <;> simp [beginsSolid]

theorem isSolid_of_all {token : Text} (nonempty : token ≠ [])
    (solid : token.all (!isBlank ·) = true) : token.IsSolid := by
  refine ⟨nonempty, fun c member => ?_⟩
  simpa using List.all_eq_true.mp solid c member

theorem IsSolid.beginsSolid_append {token : Text} (solid : token.IsSolid) (text : Text) :
    (token ++ text).beginsSolid = true := by
  obtain ⟨c, rest, rfl⟩ := List.exists_cons_of_ne_nil solid.1
  exact beginsSolid_iff.mpr ⟨c, rest ++ text, rfl, solid.2 c List.mem_cons_self⟩

/-- A token in front of a text has no blanks to trim. -/
theorem IsSolid.trimStart_append {token : Text} (solid : token.IsSolid) (text : Text) :
    trimStart (token ++ text) = token ++ text := by
  obtain ⟨c, rest, begins, inside⟩ := beginsSolid_iff.mp (solid.beginsSolid_append text)
  exact trimStart_of_solid begins inside

/-- A text between two tokens has no blanks around it. -/
theorem solid_append {first last : Text} (begins : first.IsSolid) (middle : Text)
    (ends : last.IsSolid) : Solid (first ++ (middle ++ last)) where
  begins := beginsSolid_iff.mp (begins.beginsSolid_append _)
  ends := by
    refine ⟨first ++ (middle ++ last.dropLast), last.getLast ends.1, ?_,
      ends.2 _ (List.getLast_mem ends.1)⟩
    rw [List.append_assoc, List.append_assoc, List.dropLast_concat_getLast ends.1]

/-- Trimming takes away the blanks around a token. -/
theorem trim_padded {before token behind : Text} (beginning : ∀ c ∈ before, isBlank c = true)
    (solid : token.IsSolid) (ending : ∀ c ∈ behind, isBlank c = true) :
    trim (before ++ (token ++ behind)) = token := by
  have last : isBlank (token.getLast solid.1) = false := solid.2 _ (List.getLast_mem solid.1)
  rw [trim, trimStart_blanks_append beginning, solid.trimStart_append,
    trimEnd_append_blanks ending,
    trimEnd_of_solid (List.dropLast_concat_getLast solid.1).symm last]

theorem words_cons_of_beginsSolid {c : Char} {text : Text} (solid : isBlank c = false)
    (glued : text.beginsSolid = true) :
    ∃ first others, text.words = first :: others ∧ first ≠ [] ∧
      words (c :: text) = (c :: first) :: others := by
  obtain ⟨d, rest, rfl, inside⟩ := beginsSolid_iff.mp glued
  obtain ⟨first, others, split⟩ := exists_splitOnP isBlank rest
  have whole := splitOnP_cons_of_inside inside split
  refine ⟨d :: first, others.filter (!·.isEmpty), ?_, List.cons_ne_nil d first, ?_⟩
  · rw [words, runs, whole]
    rfl
  · rw [words, runs, splitOnP_cons_of_inside solid whole]
    rfl

theorem words_cons_of_not_beginsSolid {c : Char} {text : Text} (solid : isBlank c = false)
    (apart : text.beginsSolid = false) : words (c :: text) = [c] :: text.words := by
  refine runs_append_of_inside (List.cons_ne_nil c []) ?_ ?_
  · simpa using solid
  · cases text with
    | nil => exact .inl rfl
    | cons d rest => exact .inr ⟨d, rest, rfl, by simpa [beginsSolid] using apart⟩

/-- Two texts with the same words at the same places, apart from the blanks between them. -/
structure Respaced (left right : Text) : Prop where
  words : left.words = right.words
  begins : left.beginsSolid = right.beginsSolid

theorem words_trimStart (text : Text) : text.trimStart.words = text.words := by
  have blanks : ∀ c ∈ text.takeWhile isBlank, isBlank c = true :=
    List.all_eq_true.mp List.all_takeWhile
  have dropped := runs_separators_append blanks text.trimStart
  rw [trimStart, List.takeWhile_append_dropWhile] at dropped
  exact dropped.symm

theorem words_trimEnd (text : Text) : text.trimEnd.words = text.words := by
  obtain ⟨ending, blanks, split⟩ := exists_trimEnd text
  have kept : runs isBlank (text.trimEnd ++ ending) = runs isBlank text.trimEnd :=
    runs_append_separators blanks
  rw [← split] at kept
  exact kept.symm

/-- What begins with a word is a respacing of every text with the same words, once the blanks in
front of it are gone. -/
theorem respaced_trimStart {left right : Text} (same : left.words = right.words)
    (begins : left.beginsSolid = true) : Respaced left right.trimStart := by
  refine ⟨same.trans (words_trimStart right).symm, ?_⟩
  have nonblank : right.trimStart ≠ [] := by
    intro nothing
    obtain ⟨c, rest, rfl, inside⟩ := beginsSolid_iff.mp begins
    obtain ⟨first, others, split⟩ := runs_cons_of_inside inside rest
    rw [← words_trimStart right, nothing, words, split] at same
    cases same
  rw [begins, beginsSolid_iff.mpr (trimStart_begins nonblank)]

namespace Respaced

variable {left right : Text}

/-- A character that is not blank begins both texts or neither. -/
theorem uncons {c : Char} (solid : isBlank c = false) (respaced : Respaced (c :: left) right) :
    ∃ rest, right = c :: rest ∧ Respaced left rest := by
  obtain ⟨same, begins⟩ := respaced
  have starts : beginsSolid (c :: left) = true := beginsSolid_iff.mpr ⟨c, left, rfl, solid⟩
  obtain ⟨d, rest, rfl, inside⟩ := beginsSolid_iff.mp (begins.symm.trans starts)
  -- The first word ends behind the character in both texts or goes on in both.
  cases gluedLeft : left.beginsSolid with
  | true =>
    obtain ⟨first, others, whole, nonempty, behind⟩ := words_cons_of_beginsSolid solid gluedLeft
    cases gluedRight : beginsSolid rest with
    | true =>
      obtain ⟨other, more, wholeRight, -, behindRight⟩ :=
        words_cons_of_beginsSolid inside gluedRight
      rw [behind, behindRight] at same
      cases same
      exact ⟨rest, rfl, whole.trans wholeRight.symm, gluedLeft.trans gluedRight.symm⟩
    | false =>
      rw [behind, words_cons_of_not_beginsSolid inside gluedRight] at same
      cases same
      exact (nonempty rfl).elim
  | false =>
    rw [words_cons_of_not_beginsSolid solid gluedLeft] at same
    cases gluedRight : beginsSolid rest with
    | true =>
      obtain ⟨other, more, -, nonempty, behindRight⟩ := words_cons_of_beginsSolid inside gluedRight
      rw [behindRight] at same
      cases same
      exact (nonempty rfl).elim
    | false =>
      rw [words_cons_of_not_beginsSolid inside gluedRight] at same
      obtain ⟨first, others⟩ := List.cons.inj same
      cases first
      exact ⟨rest, rfl, others, gluedLeft.trans gluedRight.symm⟩

/-- A token begins both texts or neither. -/
theorem unappend {token : Text} (solid : ∀ c ∈ token, isBlank c = false)
    (respaced : Respaced (token ++ left) right) :
    ∃ rest, right = token ++ rest ∧ Respaced left rest := by
  induction token generalizing right with
  | nil => exact ⟨right, rfl, respaced⟩
  | cons c token ih =>
    obtain ⟨behind, rfl, others⟩ := respaced.uncons (solid c List.mem_cons_self)
    obtain ⟨rest, rfl, same⟩ := ih (fun d member => solid d (List.mem_cons_of_mem _ member)) others
    exact ⟨rest, rfl, same⟩

end Respaced

/-! ## Tokens -/

/-- A text spells tokens in order, each with or without blanks in front of it, and goes on with
`rest`. -/
inductive Spells (rest : Text) : List Text → Text → Prop
  | nil : Spells rest [] rest
  | cons {gap token text : Text} {tokens : List Text} (blanks : ∀ c ∈ gap, isBlank c = true)
      (solid : token.IsSolid) (spells : Spells rest tokens text) :
      Spells rest (token :: tokens) (gap ++ (token ++ text))

namespace Spells

variable {rest text token : Text} {tokens : List Text}

/-- A token may stand without blanks in front of it. -/
theorem glued (solid : token.IsSolid) (spells : Spells rest tokens text) :
    Spells rest (token :: tokens) (token ++ text) :=
  @cons rest [] token text tokens (List.forall_mem_nil _) solid spells

/-- A token may stand behind a single space. -/
theorem spaced (solid : token.IsSolid) (spells : Spells rest tokens text) :
    Spells rest (token :: tokens) (' ' :: (token ++ text)) :=
  @cons rest [' '] token text tokens (List.forall_mem_singleton.mpr (by decide)) solid spells

/-- Without the blanks in front of it, a text begins with its first token. -/
theorem trimStart_eq (spells : Spells rest (token :: tokens) text) :
    ∃ behind, text.trimStart = token ++ behind ∧ Spells rest tokens behind := by
  cases spells with
  | @cons gap _ behind _ blanks solid others =>
    exact ⟨behind, (trimStart_blanks_append blanks _).trans (solid.trimStart_append behind), others⟩

/-- Changing the blanks of a text does not change the tokens that it spells. -/
theorem of_words_eq (spells : Spells rest tokens text) {other : Text}
    (same : text.words = other.words) : ∃ rest', Spells rest' tokens other := by
  induction spells generalizing other with
  | nil => exact ⟨other, .nil⟩
  | @cons gap token text tokens blanks solid spells ih =>
    rw [words, runs_separators_append blanks] at same
    have respaced := respaced_trimStart same (solid.beginsSolid_append text)
    obtain ⟨behind, begins, others⟩ := respaced.unappend solid.2
    obtain ⟨rest', spelled⟩ := ih others.words
    refine ⟨rest', ?_⟩
    rw [← List.takeWhile_append_dropWhile (p := isBlank) (l := other),
      show other.dropWhile isBlank = token ++ behind from begins]
    exact .cons (List.all_eq_true.mp List.all_takeWhile) solid spelled

end Spells

end PseudoLint.Text
