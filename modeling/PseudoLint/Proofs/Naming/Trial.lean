import PseudoLint.Proofs.Block.Acceptance
import PseudoLint.Proofs.Core.Silence
import PseudoLint.Proofs.Form.Trailing

/-! # The trial of a name

A legal name is declared, assigned to and printed, on one line each. Whatever its letters, the three
lines are made of the name, four fixed words and a few signs, and their first words are known. So no
rule that looks at whole words, at signs or at literals finds anything on them.
-/

namespace PseudoLint

namespace Text

/-- A text without the separator is found on one of its sides. -/
theorem hasInfix_append_cons {separator : Char} {needle : Text} (nonempty : needle ≠ [])
    (free : separator ∉ needle) (left right : Text) :
    Text.hasInfix (left ++ separator :: right) needle =
      (left.hasInfix needle || right.hasInfix needle) := by
  induction left with
  | nil =>
    have here : needle.isPrefixOf (separator :: right) = needle.isPrefixOf [] :=
      startsWith_append_cons free [] right
    rw [List.nil_append, hasInfix, hasInfix, here]
    cases needle with
    | nil => exact absurd rfl nonempty
    | cons c rest => rfl
  | cons c left ih =>
    have here : needle.isPrefixOf (c :: (left ++ separator :: right)) =
        needle.isPrefixOf (c :: left) := startsWith_append_cons free (c :: left) right
    rw [List.cons_append, hasInfix, hasInfix, here, ih, Bool.or_assoc]

end Text

/-- A name that a program may choose: a strict name that is neither reserved nor foreign. -/
structure LegalName (name : Text) : Prop where
  strict : isStrictName name = true
  notReserved : Keyword.isReserved name = false
  notForeign : Keyword.isForeign name = false

namespace LegalName

variable {name : Text}

theorem isName (legal : LegalName name) : isName name = true :=
  isName_of_isStrictName legal.strict

theorem isWord (legal : LegalName name) : Core.IsWord name :=
  Core.isWord_of_isName legal.isName

theorem ne_of_isReserved (legal : LegalName name) {word : Text}
    (reserved : Keyword.isReserved word = true) : name ≠ word := by
  rintro rfl
  rw [legal.notReserved] at reserved
  cases reserved

theorem nameShapeFindings_eq_nil (legal : LegalName name) : Rule.nameShapeFindings name = [] := by
  have strict := legal.strict
  have reserved := legal.notReserved
  cases name with
  | nil => cases strict
  | cons c rest =>
    have letter : isDigit c = false := by
      simp only [isStrictName, Bool.and_eq_true] at strict
      apply not_isDigit_of_isNameStart
      rw [isNameStart, strict.1, Bool.true_or]
    simp [Rule.nameShapeFindings, letter, strict, reserved, Rule.whenever]

end LegalName

/-- The three lines of a trial. -/
inductive TrialLine where
  | declares
  | assigns
  | prints
deriving DecidableEq, Repr

namespace TrialLine

/-- The first word of a line. -/
def head (name : Text) : TrialLine → Text
  | declares => "DECLARE"
  | assigns => name
  | prints => "OUTPUT"

/-- What stands behind the first word and a space. -/
def tail (name : Text) : TrialLine → Text
  | declares => name ++ ' ' :: ':' :: ' ' :: "INTEGER"
  | assigns => assignArrow :: ' ' :: ['1']
  | prints => name

def text (name : Text) (line : TrialLine) : Text :=
  line.head name ++ ' ' :: line.tail name

def number : TrialLine → Int
  | declares => 1
  | assigns => 2
  | prints => 3

def statement (name : Text) (line : TrialLine) : Statement :=
  ⟨line.number, line.text name⟩

/-- The words of a trial apart from the name. -/
def fixedWords : List Text :=
  ["DECLARE", "INTEGER", "OUTPUT", "1"]

/-- The signs of a trial. -/
def signs : Text :=
  [' ', ':', assignArrow]

/-- A reserved word that does not occur in a trial. -/
def Absent (word : Text) : Prop :=
  Keyword.isReserved word = true ∧ word ∉ fixedWords

instance : DecidablePred Absent :=
  fun word => inferInstanceAs (Decidable (Keyword.isReserved word = true ∧ word ∉ fixedWords))

/-- Words that some rule or sweep looks for. -/
def soughtWords : List Text :=
  ["FUNCTION", "PROCEDURE", "CASE", "CALL", "ARRAY", "FOR", "WHILE"]

/-- All that depends on the letters of the words, so that they are looked at only once. -/
private theorem letters :
    (∀ word ∈ fixedWords, Rule.nameShapeFindings word = [] ∧ (isName word = true →
      Keyword.isReserved word = true ∧ word.upper = word ∧ Keyword.isForeign word = false)) ∧
    ((∀ word ∈ soughtWords, Absent word) ∧
      ∀ entry ∈ Keyword.blocks, Absent entry.1 ∧ Absent entry.2) ∧
    (wordRuns (':' :: ' ' :: "INTEGER") ⊆ fixedWords ∧
      wordRuns (assignArrow :: ' ' :: ['1']) ⊆ fixedWords) ∧
    (' ' :: ':' :: ' ' :: "INTEGER".toList).all (fun c => isWordChar c || signs.contains c) = true ∧
      (assignArrow :: ' ' :: ['1']).all (fun c => isWordChar c || signs.contains c) = true := by
  decide +kernel

theorem absent_of_mem {word : Text} (sought : word ∈ soughtWords) : Absent word :=
  letters.2.1.1 word sought

variable {name : Text}

/-! ## Words and signs -/

theorem head_cases (name : Text) (line : TrialLine) :
    line.head name = name ∨ line.head name = "DECLARE" ∨ line.head name = "OUTPUT" := by
  cases line with
  | declares => exact .inr (.inl rfl)
  | assigns => exact .inl rfl
  | prints => exact .inr (.inr rfl)

theorem isWord_head (legal : LegalName name) (line : TrialLine) : Core.IsWord (line.head name) := by
  cases line with
  | declares => exact Core.CoreWord.declare.isWord
  | assigns => exact legal.isWord
  | prints => exact Core.CoreWord.output.isWord

/-- Apart from its own, no reserved word begins a line. -/
theorem head_ne (legal : LegalName name) (line : TrialLine) {word : Text} (absent : Absent word) :
    line.head name ≠ word := by
  rintro rfl
  rcases line.head_cases name with same | same | same
  · exact legal.ne_of_isReserved absent.1 same.symm
  · exact absent.2 (same ▸ List.mem_cons_self)
  · refine absent.2 (same ▸ ?_)
    exact List.mem_cons_of_mem _ (List.mem_cons_of_mem _ List.mem_cons_self)

theorem wordRuns_text (legal : LegalName name) (line : TrialLine) :
    wordRuns (line.text name) = line.head name :: wordRuns (line.tail name) := by
  obtain ⟨nonempty, inside⟩ := line.isWord_head legal
  rw [text, wordRuns_append_cons (by decide), wordRuns_of_word nonempty inside]
  rfl

/-- Every word of a line is the name or one of the fixed words. -/
theorem wordRuns_cases (legal : LegalName name) (line : TrialLine) {word : Text}
    (member : word ∈ wordRuns (line.text name)) : word = name ∨ word ∈ fixedWords := by
  have named : wordRuns name = [name] := wordRuns_of_word legal.isWord.nonempty legal.isWord.inside
  rw [wordRuns_text legal] at member
  rcases List.mem_cons.mp member with first | behind
  · rw [first]
    rcases line.head_cases name with same | same | same
    · exact .inl same
    · exact .inr (by rw [same]; decide)
    · exact .inr (by rw [same]; decide)
  · cases line with
    | declares =>
      rw [tail, wordRuns_append_cons (by decide), named] at behind
      rcases List.mem_append.mp behind with here | there
      · exact .inl (List.mem_singleton.mp here)
      · exact .inr (letters.2.2.1.1 there)
    | assigns => exact .inr (letters.2.2.1.2 behind)
    | prints =>
      rw [tail, named] at behind
      exact .inl (List.mem_singleton.mp behind)

private theorem chars_of_all {part : Text} {c : Char}
    (all : part.all (fun d => isWordChar d || signs.contains d) = true) (member : c ∈ part) :
    isWordChar c = true ∨ c ∈ signs := by
  simpa using List.all_eq_true.mp all c member

theorem chars_text (legal : LegalName name) (line : TrialLine) {c : Char}
    (member : c ∈ line.text name) : isWordChar c = true ∨ c ∈ signs := by
  have named : ∀ c ∈ name, isWordChar c = true := legal.isWord.inside
  rcases List.mem_append.mp member with first | behind
  · exact .inl ((line.isWord_head legal).inside c first)
  rcases List.mem_cons.mp behind with rfl | behind
  · exact .inr (by decide)
  cases line with
  | declares =>
    rcases List.mem_append.mp behind with here | there
    · exact .inl (named c here)
    · exact chars_of_all letters.2.2.2.1 there
  | assigns => exact chars_of_all letters.2.2.2.2 behind
  | prints => exact .inl (named c behind)

theorem not_mem_text (legal : LegalName name) (line : TrialLine) {c : Char}
    (notWord : isWordChar c = false) (notSign : c ∉ signs) : c ∉ line.text name := by
  intro member
  rcases line.chars_text legal member with word | sign
  · rw [notWord] at word
    cases word
  · exact notSign sign

theorem solid_text (legal : LegalName name) (line : TrialLine) : Text.Solid (line.text name) := by
  constructor
  · obtain ⟨c, rest, split, inWord⟩ := (line.isWord_head legal).exists_cons
    refine ⟨c, rest ++ ' ' :: line.tail name, ?_, not_isBlank_of_isWordChar inWord⟩
    rw [text, split, List.cons_append]
  · have behind : Core.Solid (line.tail name) := by
      cases line with
      | declares =>
        have typed := (Core.CoreWord.type .integer).isWord.solid
        exact (((typed.cons ' ').cons ':').cons ' ').append name
      | assigns => exact ⟨[assignArrow, ' '], '1', rfl, by decide⟩
      | prints => exact legal.isWord.solid
    exact (behind.cons ' ').append (line.head name)

/-- Nothing on a line is a literal or a comment. -/
theorem leavesPlain (legal : LegalName name) (line : TrialLine) :
    LeavesPlain (line.text name) (line.text name) where
  outside := dropQuoted_of_free (line.not_mem_text legal (by decide) (by decide))
  quotes := line.not_mem_text legal (by decide) (by decide)
  apostrophes := line.not_mem_text legal (by decide) (by decide)
  slashes := line.not_mem_text legal (by decide) (by decide)

theorem code_statement (legal : LegalName name) (line : TrialLine) :
    (line.statement name).code = line.text name :=
  (line.leavesPlain legal).codeOf_eq.trans (line.solid_text legal).trim_eq

/-- Every name on a line is the tried one or a reserved word in capitals. -/
theorem names_cases (legal : LegalName name) (line : TrialLine) {use : NameUse}
    (member : use ∈ nameUses (line.statement name).code) :
    use.name = name ∨ Keyword.isReserved use.name = true ∧ use.name.upper = use.name ∧
      Keyword.isForeign use.name = false := by
  have named := isName_of_mem_nameUses member
  have run := mem_wordRuns_of_mem_nameUses member
  rw [line.code_statement legal] at run
  exact (line.wordRuns_cases legal run).imp_right fun fixed => (letters.1 _ fixed).2 named

theorem words_text (legal : LegalName name) (line : TrialLine) :
    (line.text name).words = line.head name :: Text.words (' ' :: line.tail name) := by
  obtain ⟨nonempty, inside⟩ := line.isWord_head legal
  refine Text.runs_append_of_inside nonempty ?_ (.inr ⟨' ', line.tail name, rfl, by decide⟩)
  exact fun c member => not_isBlank_of_isWordChar (inside c member)

theorem firstWord_statement (legal : LegalName name) (line : TrialLine) :
    (line.statement name).firstWord = line.head name := by
  rw [Statement.firstWord, Statement.words, statement, line.words_text legal, List.headD_cons]

/-- A word and a space begin a line only if the word is its first one. -/
theorem head_eq_of_startsWith (legal : LegalName name) {line : TrialLine} {word rest : Text}
    (free : ' ' ∉ word) (starts : (line.statement name).startsWith (word ++ ' ' :: rest) = true) :
    line.head name = word := by
  obtain ⟨behind, split⟩ := List.isPrefixOf_iff_prefix.mp starts
  have whole : line.head name ++ ' ' :: line.tail name = word ++ ' ' :: (rest ++ behind) := by
    rw [← List.cons_append, ← List.append_assoc]
    exact split.symm
  exact (Text.append_cons_inj ((line.isWord_head legal).not_mem (by decide)) free whole).1

/-- A text without spaces begins a line exactly if it begins its first word. -/
theorem startsWith_statement (name : Text) (line : TrialLine) {start : Text} (free : ' ' ∉ start) :
    (line.statement name).startsWith start = (line.head name).startsWith start :=
  Text.startsWith_append_cons free (line.head name) (line.tail name)

/-! ## What the rules on words and signs find -/

theorem isRecognized (legal : LegalName name) (line : TrialLine) :
    Rule.isRecognized (line.statement name) = true := by
  cases line with
  | declares =>
    have colon : ((declares.statement name).text.contains ':') = true :=
      List.contains_iff_mem.mpr (by simp [statement, text, tail])
    simp only [Rule.isRecognized, colon, Bool.or_true]
  | assigns =>
    have arrow : (assigns.statement name).hasArrow = true :=
      List.contains_iff_mem.mpr (by simp [statement, text, tail])
    simp only [Rule.isRecognized, arrow, Bool.or_true, Bool.true_or]
  | prints =>
    have reserved : (prints.statement name).words.any Keyword.isReserved = true := by
      refine List.any_eq_true.mpr ⟨prints.head name, ?_, Core.CoreWord.output.isReserved⟩
      rw [Statement.words, statement, words_text legal]
      exact List.mem_cons_self
    simp only [Rule.isRecognized, reserved, Bool.true_or]

theorem wordingFindings_eq_nil (legal : LegalName name) (line : TrialLine) :
    Rule.wordingFindings (line.statement name) = [] := by
  have equals : (Rule.dropRelations (line.statement name).code).contains '=' = false := by
    rw [line.code_statement legal, List.contains_eq_mem, decide_eq_false_iff_not]
    exact fun member => line.not_mem_text legal (by decide) (by decide)
      (Core.Phrase.dropRelations_subset _ member)
  have shapes : (wordRuns (line.statement name).code).flatMap Rule.nameShapeFindings = [] := by
    rw [List.flatMap_eq_nil_iff, line.code_statement legal]
    intro word member
    rcases line.wordRuns_cases legal member with rfl | fixed
    · exact legal.nameShapeFindings_eq_nil
    · exact (letters.1 word fixed).1
  have assigned : Rule.assignsByEquals (line.statement name) = false := by
    simp only [Rule.assignsByEquals, equals, Bool.and_false, Bool.false_and]
  simp [Rule.wordingFindings, Rule.whenever, assigned, line.isRecognized legal, shapes]

/-- A first word that is not reserved is followed by the assignment sign. -/
theorem unknownWordFindings_eq_nil (legal : LegalName name) (line : TrialLine)
    (table : SymbolTable) : Rule.unknownWordFindings (line.statement name) table = [] := by
  have known : Rule.isUnknownWord (line.statement name) table = false := by
    unfold Rule.isUnknownWord
    rw [line.firstWord_statement legal]
    cases line with
    | declares =>
      have reserved : Keyword.reserved.contains (declares.head name) = true :=
        List.contains_iff_mem.mpr Core.CoreWord.declare.mem_reserved
      simp only [reserved, Bool.not_true, Bool.false_and]
    | prints =>
      have reserved : Keyword.reserved.contains (prints.head name) = true :=
        List.contains_iff_mem.mpr Core.CoreWord.output.mem_reserved
      simp only [reserved, Bool.not_true, Bool.false_and]
    | assigns =>
      have arrow : Text.trimStart ((assigns.statement name).text.drop
          (assigns.head name).length) = assignArrow :: ' ' :: ['1'] := by
        rw [statement, text, List.drop_left]
        rfl
      have follows : Rule.nameFollowers.any
          (Text.startsWith (assignArrow :: ' ' :: ['1']) ·) = true := by decide
      simp only [arrow, follows, Bool.not_true, Bool.and_false, Bool.false_and]
  simp [Rule.unknownWordFindings, Rule.whenever, known]

theorem keywordFindings_eq_nil (legal : LegalName name) (line : TrialLine) :
    Rule.keywordFindings (line.statement name) = [] := by
  have spelled : ∀ word ∈ (line.statement name).names,
      (Keyword.isReserved word && word != word.upper) = false ∧ Keyword.isForeign word = false := by
    intro word member
    obtain ⟨use, found, rfl⟩ := List.mem_map.mp member
    rcases line.names_cases legal found with same | ⟨-, upper, foreign⟩
    · rw [same]
      exact ⟨by rw [legal.notReserved, Bool.false_and], legal.notForeign⟩
    · exact ⟨by rw [upper, bne_self_eq_false, Bool.and_false], foreign⟩
  simp only [Rule.keywordFindings, List.append_eq_nil_iff, List.map_eq_nil_iff,
    List.filter_eq_nil_iff, Bool.not_eq_true]
  exact ⟨fun word member => (spelled word member).1, fun word member => (spelled word member).2⟩

/-- No line begins with a reserved word other than its own and a space. -/
theorem not_startsWith_spaced (legal : LegalName name) (line : TrialLine) {word : Text}
    (sought : word ∈ soughtWords) (free : ' ' ∉ word) (rest : Text) :
    (line.statement name).startsWith (word ++ ' ' :: rest) = false := by
  rw [Bool.eq_false_iff]
  intro starts
  exact line.head_ne legal (absent_of_mem sought) (head_eq_of_startsWith legal free starts)

theorem firstWord_ne (legal : LegalName name) (line : TrialLine) {word : Text}
    (sought : word ∈ soughtWords) : ((line.statement name).firstWord == word) = false := by
  rw [line.firstWord_statement legal]
  exact beq_false_of_ne (line.head_ne legal (absent_of_mem sought))

theorem shapeFindings_eq_nil (legal : LegalName name) (line : TrialLine) :
    Rule.shapeFindings (line.statement name) = [] := by
  have loop : ((line.statement name).firstWord == "FOR".toList) = false :=
    line.firstWord_ne legal (by decide)
  have selection : (line.statement name).startsWith ("CASE".toList ++ ' ' :: "OF".toList) = false :=
    line.not_startsWith_spaced legal (by decide) (by decide) "OF"
  have condition : ((line.statement name).firstWord == "WHILE".toList) = false :=
    line.firstWord_ne legal (by decide)
  have spelled : "CASE OF".toList = "CASE".toList ++ ' ' :: "OF".toList := by decide
  simp only [Rule.shapeFindings, Rule.whenever, loop, spelled, selection, condition,
    Bool.false_and, Bool.false_eq_true, ↓reduceIte, List.append_nil]

theorem subprogramFindings_eq_nil (legal : LegalName name) (line : TrialLine) :
    Rule.subprogramFindings (line.statement name) = [] := by
  have header : ((line.statement name).firstWord == "FUNCTION".toList) = false :=
    line.firstWord_ne legal (by decide)
  simp only [Rule.subprogramFindings, header, Bool.false_eq_true, ↓reduceIte]

theorem callFindings_eq_nil (legal : LegalName name) (line : TrialLine) (table : SymbolTable) :
    Rule.callFindings (line.statement name) table = [] := by
  have call : (line.statement name).startsWith ("CALL".toList ++ ' ' :: []) = false :=
    line.not_startsWith_spaced legal (by decide) (by decide) []
  have spelled : "CALL ".toList = "CALL".toList ++ ' ' :: [] := by decide
  simp only [Rule.callFindings, spelled, call, Bool.false_eq_true, ↓reduceIte]

theorem literalFindings_eq_nil (legal : LegalName name) (line : TrialLine) (table : SymbolTable) :
    Rule.literalFindings (line.statement name) table = [] := by
  have quotes : '"' ∉ (line.statement name).text := line.not_mem_text legal (by decide) (by decide)
  have closed : (line.statement name).hasUnclosedString = false := by
    rw [Statement.hasUnclosedString, List.count_eq_zero_of_not_mem quotes]
    rfl
  have chars : charLiterals (line.statement name).text = [] :=
    (line.leavesPlain legal).charLiterals_eq_nil
  have assigned : Form.stringAssignment.first? (line.statement name).text = none :=
    Form.stringAssignment_needs_quote.first?_eq_none quotes
  simp only [Rule.literalFindings, Rule.whenever, Rule.stringAssignmentFindings, closed, chars,
    assigned, Bool.false_eq_true, ↓reduceIte, List.flatMap_nil, List.append_nil]

theorem bracket_not_mem_code (legal : LegalName name) (line : TrialLine) :
    '[' ∉ (line.statement name).code := by
  rw [line.code_statement legal]
  exact line.not_mem_text legal (by decide) (by decide)

theorem accesses_eq_nil (legal : LegalName name) (line : TrialLine) :
    (line.statement name).accesses = [] :=
  Statement.accesses_eq_nil_of_free (line.bracket_not_mem_code legal)

theorem array?_eq_none (legal : LegalName name) (line : TrialLine) :
    (line.statement name).array? = none :=
  Statement.array?_eq_none_of_free (line.bracket_not_mem_code legal)

theorem not_overlong (legal : LegalName name) (line : TrialLine) :
    ¬ (line.statement name).Overlong :=
  Statement.not_overlong_of_free (line.bracket_not_mem_code legal)

theorem usageFindings_eq_nil (legal : LegalName name) (line : TrialLine) {table : SymbolTable}
    (declared : table.isDeclared name = true) :
    Rule.usageFindings (line.statement name) table = [] := by
  have fine : ∀ use ∈ nameUses (line.statement name).code,
      (Rule.isVariableUse use && !table.isDeclared use.name) = false := by
    intro use member
    rcases line.names_cases legal member with same | ⟨reserved, -⟩
    · rw [same, declared, Bool.not_true, Bool.and_false]
    · simp only [Rule.isVariableUse, reserved, Bool.not_true, Bool.false_and]
  unfold Rule.usageFindings
  split
  · rw [List.map_eq_nil_iff, List.filter_eq_nil_iff]
    exact fun use member => Bool.eq_false_iff.mp (fine use member)
  · rfl

theorem isName_head (legal : LegalName name) (line : TrialLine) :
    isName (line.head name) = true := by
  cases line with
  | declares => exact Core.CoreWord.declare.isName
  | assigns => exact legal.isName
  | prints => exact Core.CoreWord.output.isName

/-- The name at the start of a line is its first word. -/
theorem name_text (legal : LegalName name) (line : TrialLine) :
    Form.name (line.text name) = some (line.head name, ' ' :: line.tail name) :=
  Form.name_append_of_isName (line.isName_head legal)
    (List.takeWhile_cons_of_neg (by decide))

/-- Behind the first word stands the name or the sign of an assignment to it. -/
theorem assignedName_cases (legal : LegalName name) {line : TrialLine} {target : Text}
    (assigned : Form.assignedName (line.text name) = some target) : target = name := by
  simp only [Form.assignedName, name_text legal, bind, Option.bind_some,
    Option.bind_eq_some_iff] at assigned
  obtain ⟨rest, arrow, same⟩ := assigned
  cases same
  have other (behind : Text) : Form.mark assignArrow (Text.trimStart (' ' :: (name ++ behind))) =
      none := by
    have trimmed : Text.trimStart (' ' :: (name ++ behind)) = name ++ behind :=
      legal.isWord.trimStart_append behind
    obtain ⟨c, letters, split, letter⟩ := legal.isWord.exists_cons
    rw [trimmed, split, List.cons_append, Form.mark, if_neg]
    intro same
    rw [beq_iff_eq.mp same, Core.not_isWordChar_arrow] at letter
    cases letter
  cases line with
  | declares =>
    rw [tail, other] at arrow
    cases arrow
  | assigns => rfl
  | prints =>
    rw [tail, ← List.append_nil name, other] at arrow
    cases arrow

theorem targetFindings_eq_nil (legal : LegalName name) (line : TrialLine) {table : SymbolTable}
    (declared : table.isDeclared name = true) :
    Rule.targetFindings (line.statement name) table = [] := by
  unfold Rule.targetFindings
  split
  · rename_i target assigned
    rw [assignedName_cases legal assigned, declared]
    rfl
  · rfl

/-- All words that open or close blocks are reserved, and none of them occurs in a trial. -/
theorem not_isBlockWord_head (legal : LegalName name) (line : TrialLine) :
    Nesting.isBlockWord (line.head name) = false := by
  rw [Nesting.isBlockWord, Bool.or_eq_false_iff]
  constructor
  · rw [Keyword.isOpener, Keyword.closer?, Option.isSome_eq_false_iff, Option.isNone_iff_eq_none,
      List.lookup_eq_none_iff]
    intro entry member
    exact bne_iff_ne.mpr (line.head_ne legal (letters.2.1.2 entry member).1)
  · rw [Keyword.isCloser, List.contains_eq_mem, decide_eq_false_iff_not, List.mem_map]
    rintro ⟨entry, member, same⟩
    exact line.head_ne legal (letters.2.1.2 entry member).2 same.symm

theorem turnBlocks_eq (legal : LegalName name) (line : TrialLine) (blocks : BlockStack) :
    Rule.turnBlocks (line.statement name) blocks = (blocks, []) := by
  obtain ⟨opens, closes⟩ := Bool.or_eq_false_iff.mp (line.not_isBlockWord_head legal)
  simp only [Rule.turnBlocks, line.firstWord_statement legal, opens, closes, Bool.false_eq_true,
    ↓reduceIte]

end TrialLine

end PseudoLint
