import PseudoLint.Line
import PseudoLint.Proofs.Core.Wording

/-! # Lines of core programs

A line of a core program, indented or not, carries exactly its phrase: the phrase begins with a word
character and ends with no blank. Its first word is the head of the phrase, and what the line begins
with is decided by the head.
-/

namespace PseudoLint.Core

variable {scope : List Text}

/-- The text ends with a character that is not blank. -/
def Solid (text : Text) : Prop :=
  ∃ before c, text = before ++ [c] ∧ isBlank c = false

theorem Solid.append {text : Text} (solid : Solid text) (front : Text) : Solid (front ++ text) := by
  obtain ⟨before, c, rfl, notBlank⟩ := solid
  exact ⟨front ++ before, c, (List.append_assoc ..).symm, notBlank⟩

theorem Solid.cons {text : Text} (solid : Solid text) (c : Char) : Solid (c :: text) :=
  solid.append [c]

theorem Solid.trimEnd_eq {text : Text} (solid : Solid text) : text.trimEnd = text := by
  obtain ⟨before, c, ends, notBlank⟩ := solid
  exact Text.trimEnd_of_solid ends notBlank

theorem IsWord.solid {text : Text} (word : IsWord text) : Solid text := by
  have ends := List.dropLast_concat_getLast word.nonempty
  refine ⟨text.dropLast, text.getLast word.nonempty, ends.symm, ?_⟩
  exact not_isBlank_of_isWordChar (word.inside _ (List.getLast_mem word.nonempty))

theorem IsWord.exists_cons {word : Text} (isWord : IsWord word) :
    ∃ c rest, word = c :: rest ∧ isWordChar c = true := by
  obtain ⟨nonempty, inside⟩ := isWord
  obtain ⟨c, rest, rfl⟩ := List.exists_cons_of_ne_nil nonempty
  exact ⟨c, rest, rfl, inside c List.mem_cons_self⟩

theorem IsWord.trimStart_append {word : Text} (isWord : IsWord word) (rest : Text) :
    Text.trimStart (word ++ rest) = word ++ rest := by
  obtain ⟨c, others, rfl, inWord⟩ := isWord.exists_cons
  exact Text.trimStart_of_solid rfl (not_isBlank_of_isWordChar inWord)

theorem solid_append_flatMap {α : Type} {part : α → Text} (solid : ∀ item, Solid (part item))
    {text : Text} (first : Solid text) (items : List α) : Solid (text ++ items.flatMap part) := by
  induction items generalizing text with
  | nil => simpa using first
  | cons item rest ih =>
    rw [List.flatMap_cons, ← List.append_assoc]
    exact ih ((solid item).append text)

theorem Expr.solid (expr : Expr scope) : Solid expr.text := by
  apply solid_append_flatMap
  · intro part
    exact ((part.2.lawful.isWord.solid.cons _).cons _).cons _
  · exact expr.first.lawful.isWord.solid

theorem Condition.solid (condition : Condition scope) : Solid condition.text :=
  ((condition.right.solid.cons ' ').append condition.relation.text).cons ' ' |>.append
    condition.left.text

theorem Item.solid (item : Item scope) : Solid item.text := by
  cases item with
  | value expr => exact expr.solid
  | quotation quoted =>
    have ending : Solid ['"'] := ⟨[], '"', rfl, by decide⟩
    exact (ending.append quoted.inside).cons '"'

namespace Phrase

theorem solid (phrase : Phrase scope) : Solid phrase.text := by
  have alone : Solid (phrase.head ++ []) := by
    rw [List.append_nil]
    exact phrase.head_lawful.isWord.solid
  have word (word : CoreWord) : Solid word.text := word.isWord.solid
  cases phrase with
  | declare target type =>
    have typed := (((word (.type type)).cons ' ').cons ':').cons ' '
    exact ((typed.append target.text).cons ' ').append _
  | assign target value => exact (((value.solid.cons ' ').cons assignArrow).cons ' ').append _
  | input target => exact (target.toName.isWord.solid.cons ' ').append _
  | output first others =>
    have listed (item : Item scope) : Solid item.listed := (item.solid.cons ' ').cons ','
    exact ((solid_append_flatMap listed first.solid others).cons ' ').append _
  | ifThen test => exact ((((word .thenWord).cons ' ').append test.text).cons ' ').append _
  | whileTest test => exact (test.solid.cons ' ').append _
  | untilTest test => exact (test.solid.cons ' ').append _
  | forRange counter first last =>
    have limit := ((last.solid.cons ' ').append CoreWord.toWord.text).cons ' '
    have range := (((limit.append first.text).cons ' ').cons assignArrow).cons ' '
    exact ((range.append counter.text).cons ' ').append _
  | next counter => exact (counter.toName.isWord.solid.cons ' ').append _
  | otherwise => exact alone
  | endIf => exact alone
  | endWhile => exact alone
  | repeatBody => exact alone

theorem trimStart_text (phrase : Phrase scope) : phrase.text.trimStart = phrase.text :=
  phrase.head_lawful.isWord.trimStart_append phrase.tail

theorem trimStart_indented (unit depth : Nat) (phrase : Phrase scope) :
    (phrase.indented unit depth).trimStart = phrase.text := by
  have spaces : ∀ c ∈ List.replicate (depth * unit) ' ', isBlank c = true := by
    intro c member
    rw [(List.mem_replicate.mp member).2]
    decide
  rw [indented, Text.trimStart_blanks_append spaces, trimStart_text]

/-- A phrase as the statement of a line. -/
def statement (number : Int) (phrase : Phrase scope) : Statement :=
  ⟨number, phrase.text⟩

/-- A line carries its phrase at every depth. -/
theorem statement_indented (number : Int) (unit depth : Nat) (phrase : Phrase scope) :
    (Line.mk number (phrase.indented unit depth)).statement = phrase.statement number := by
  simp only [Line.statement, Text.trim, trimStart_indented, phrase.solid.trimEnd_eq, statement]

theorem indent_indented (number : Int) (unit depth : Nat) (phrase : Phrase scope) :
    (Line.mk number (phrase.indented unit depth)).indent = depth * unit := by
  simp only [Line.indent, trimStart_indented]
  simp only [indented, List.length_append, List.length_replicate]
  omega

theorem code_statement (number : Int) (phrase : Phrase scope) :
    (phrase.statement number).code = phrase.code.trim :=
  phrase.leavesPlain.codeOf_eq

/-! ## The first word -/

theorem words_text (phrase : Phrase scope) :
    phrase.text.words = phrase.head :: phrase.tail.words := by
  obtain ⟨nonempty, inside⟩ := phrase.head_lawful.isWord
  apply Text.runs_append_of_inside nonempty
  · exact fun c member => not_isBlank_of_isWordChar (inside c member)
  · exact phrase.tail_cases.imp_right fun ⟨rest, split⟩ => ⟨' ', rest, split, by decide⟩

theorem firstWord_statement (number : Int) (phrase : Phrase scope) :
    (phrase.statement number).firstWord = phrase.head := by
  simp only [statement, Statement.firstWord, Statement.words, words_text, List.headD_cons]

/-- The first word is a run of the code. -/
theorem wordRuns_code (phrase : Phrase scope) :
    wordRuns phrase.code = phrase.head :: wordRuns phrase.codeTail := by
  obtain ⟨nonempty, inside⟩ := phrase.head_lawful.isWord
  apply Text.runs_append_of_inside nonempty
  · intro c member
    rw [inside c member, Bool.not_true]
  · exact phrase.codeTail_cases.imp_right fun ⟨rest, split⟩ => ⟨' ', rest, split, by decide⟩

theorem isContent_statement (number : Int) (phrase : Phrase scope) :
    (phrase.statement number).isContent = true := by
  obtain ⟨c, rest, starts, inWord⟩ := phrase.head_lawful.isWord.exists_cons
  have begins : phrase.text = c :: (rest ++ phrase.tail) := by
    rw [text, starts, List.cons_append]
  have notSlash : ('/' == c) = false := by
    refine beq_false_of_ne ?_
    rintro rfl
    exact absurd inWord (by decide)
  have notComment : Text.startsWith (c :: (rest ++ phrase.tail)) "//" = false := by
    rw [Text.startsWith, String.toList_ofList]
    simp [List.isPrefixOf, notSlash]
  simp only [statement, Statement.isContent, Statement.isBlank, Statement.isComment, begins,
    notComment, List.isEmpty_cons, Bool.not_false, Bool.and_self]

theorem takeWhile_text (phrase : Phrase scope) :
    phrase.text.takeWhile (· != ' ') = phrase.head := by
  have inside : ∀ c ∈ phrase.head, (c != ' ') = true := by
    intro c member
    refine bne_iff_ne.mpr ?_
    rintro rfl
    exact absurd (phrase.head_lawful.isWord.inside _ member) (by decide)
  have stops : phrase.tail.takeWhile (· != ' ') = [] := by
    rcases phrase.tail_cases with ends | ⟨rest, continues⟩
    · rw [ends, List.takeWhile_nil]
    · rw [continues]
      rfl
  rw [text, List.takeWhile_append_of_pos inside, stops, List.append_nil]

private theorem notSpace_of_mem {text : Text} (free : ' ' ∉ text) : ∀ c ∈ text, (c != ' ') = true :=
  fun _ member => bne_iff_ne.mpr fun same => free (same ▸ member)

/-- What has no space is found at the start of a line only within its first word. -/
theorem startsWith_head {phrase : Phrase scope} {start : Text} (free : ' ' ∉ start)
    (starts : phrase.text.startsWith start = true) : phrase.head.startsWith start = true := by
  obtain ⟨rest, split⟩ := List.isPrefixOf_iff_prefix.mp starts
  apply List.isPrefixOf_iff_prefix.mpr
  rw [← takeWhile_text, ← split, List.takeWhile_append_of_pos (notSpace_of_mem free)]
  exact List.prefix_append ..

/-- A word and a space are found at the start of a line only if the word is its first one. -/
theorem head_eq_of_startsWith {phrase : Phrase scope} {word rest : Text} (free : ' ' ∉ word)
    (starts : phrase.text.startsWith (word ++ ' ' :: rest) = true) : phrase.head = word := by
  obtain ⟨behind, split⟩ := List.isPrefixOf_iff_prefix.mp starts
  rw [← takeWhile_text, ← split, List.append_assoc,
    List.takeWhile_append_of_pos (notSpace_of_mem free)]
  simp

end Phrase

end PseudoLint.Core
