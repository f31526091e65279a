import PseudoLint.Proofs.Check.Provenance
import PseudoLint.Proofs.Core.Line
import PseudoLint.Proofs.Form

/-! # What the rules say about lines of core programs

Apart from the place of its first word among the blocks, which depends on the lines around it, no
rule finds anything on a line of a core program once the variables in scope are declared. Each group
of rules is taken on its own; what they have in common is that the code of a line is plain and that
its first word is either a reserved word of the core language or the target of an assignment.
-/

namespace PseudoLint.Core

variable {scope : List Text}

theorem nameShapeFindings_of_lawful {word : Text} (lawful : Lawful scope word) :
    Rule.nameShapeFindings word = [] := by
  cases lawful with
  | keyword core => simp only [Rule.nameShapeFindings, core.isReserved, Bool.true_or, ↓reduceIte]
  | number written =>
    have digits : written.digits.all isDigit = true := by
      rw [List.all_eq_true]
      intro c member
      simp only [isDigit, written.decimal c member, Bool.true_or]
    simp only [Rule.nameShapeFindings, digits, Bool.or_true, ↓reduceIte]
  | name used =>
    obtain ⟨⟨text, strict, notReserved, -, -⟩, -⟩ := used
    cases text with
    | nil => cases strict
    | cons c rest =>
      have letter : isDigit c = false := by
        simp only [isStrictName, Bool.and_eq_true] at strict
        apply not_isDigit_of_isNameStart
        rw [isNameStart, strict.1, Bool.true_or]
      simp [Rule.nameShapeFindings, letter, strict, notReserved, Rule.whenever]

/-! ## How a line begins -/

namespace Phrase

/-- Every run of word characters in the code of a line is a lawful word. -/
theorem lawful_of_mem_wordRuns {number : Int} {phrase : Phrase scope} {word : Text}
    (member : word ∈ wordRuns (phrase.statement number).code) : Lawful scope word := by
  rw [code_statement, wordRuns_trim] at member
  exact phrase.plain_code.words word member

theorem not_mem_code_statement (number : Int) (phrase : Phrase scope) {c : Char}
    (notWord : isWordChar c = false) (notSign : c ∉ coreSigns) :
    c ∉ (phrase.statement number).code := by
  intro member
  rw [code_statement] at member
  exact phrase.not_mem_code notWord notSign (Text.mem_of_mem_trim member)

theorem head_not_mem_otherWords (phrase : Phrase scope) : phrase.head ∉ otherWords :=
  phrase.head_lawful.not_mem_otherWords

/-- A line begins with a reserved word exactly if it is the one of its kind. -/
theorem keyword?_of_head_eq {phrase : Phrase scope} {word : CoreWord}
    (same : phrase.head = word.text) : phrase.keyword? = some word := by
  rcases phrase.head_cases with ⟨other, found, head⟩ | ⟨target, value, rfl⟩
  · rw [found, CoreWord.text_injective (head.symm.trans same)]
  · exact absurd same (target.toName.text_ne word)

/-- A line that begins like a line of another kind is a declaration. -/
theorem eq_declare_of_startsWith {number : Int} {phrase : Phrase scope} {start : Text}
    (beginning : start ∈ lineBeginnings)
    (starts : (phrase.statement number).startsWith start = true) :
    start = "DECLARE" ∧ phrase.keyword? = some .declare := by
  have spaceless : ' ' ∉ start :=
    not_mem_of_isName (isName_of_mem_lineBeginnings beginning) (by decide)
  have within := startsWith_head spaceless starts
  rcases phrase.head_cases with ⟨word, found, head⟩ | ⟨target, value, rfl⟩
  · rw [head] at within
    obtain ⟨same, rfl⟩ := CoreWord.eq_declare_of_startsWith beginning within
    exact ⟨same, found⟩
  · have free := target.beginsNoLine start beginning
    exact absurd (free.symm.trans within) Bool.false_ne_true

theorem not_startsWith (number : Int) (phrase : Phrase scope) {start : Text}
    (beginning : start ∈ lineBeginnings) (other : start ≠ "DECLARE") :
    (phrase.statement number).startsWith start = false := by
  rw [Bool.eq_false_iff]
  exact fun starts => other (eq_declare_of_startsWith beginning starts).1

theorem not_startsWith_constant (number : Int) (phrase : Phrase scope) :
    (phrase.statement number).startsWith "CONSTANT" = false :=
  phrase.not_startsWith number (List.mem_cons_of_mem _ List.mem_cons_self) (by simp)

theorem not_startsWith_openFile (number : Int) (phrase : Phrase scope) :
    (phrase.statement number).startsWith "OPENFILE" = false :=
  phrase.not_startsWith number
    (List.mem_cons_of_mem _ (List.mem_cons_of_mem _ List.mem_cons_self)) (by simp)

theorem not_startsWith_endfor (number : Int) (phrase : Phrase scope) :
    (phrase.statement number).startsWith "ENDFOR" = false :=
  phrase.not_startsWith number (List.mem_cons_of_mem _ (List.mem_cons_of_mem _
    (List.mem_cons_of_mem _ List.mem_cons_self))) (by simp)

/-! ## Wording -/

theorem dropRelations_subset (text : Text) : Rule.dropRelations text ⊆ text := by
  fun_induction Rule.dropRelations text with
  | case1 rest ih =>
    exact fun c member => List.mem_cons_of_mem _ (List.mem_cons_of_mem _ (ih member))
  | case2 rest ih =>
    exact fun c member => List.mem_cons_of_mem _ (List.mem_cons_of_mem _ (ih member))
  | case3 first rest _ _ ih => exact List.cons_subset_cons first ih
  | case4 => exact List.Subset.refl _

/-- A line with a sign of its own assigns or tests a condition. -/
theorem signs_cases (phrase : Phrase scope) :
    assignArrow ∈ phrase.text ∨ phrase.head ∈ Keyword.tests ∨ phrase.signs = [] := by
  cases phrase with
  | assign target value => exact .inl (by simp [text, tail])
  | forRange counter first last => exact .inl (by simp [text, tail])
  | ifThen test => exact .inr (.inl List.mem_cons_self)
  | whileTest test =>
    exact .inr (.inl (List.mem_cons_of_mem _ (List.mem_cons_of_mem _ List.mem_cons_self)))
  | untilTest test => exact .inr (.inl (List.mem_cons_of_mem _ (List.mem_cons_of_mem _
      (List.mem_cons_of_mem _ List.mem_cons_self))))
  | _ => exact .inr (.inr rfl)

/-- The first word of a line stands between word boundaries in its code. -/
theorem hasWord_of_mem {number : Int} {phrase : Phrase scope} {word : Text}
    (member : word ∈ wordRuns phrase.code) :
    hasWord word (phrase.statement number).code = true := by
  rw [code_statement]
  obtain ⟨nonempty, inside⟩ := (phrase.plain_code.words word member).isWord
  rwa [hasWord_iff nonempty inside, wordRuns_trim]

theorem not_assignsByEquals (number : Int) (phrase : Phrase scope) :
    Rule.assignsByEquals (phrase.statement number) = false := by
  rcases phrase.signs_cases with arrow | tests | none
  · have has : (phrase.statement number).hasArrow = true := List.contains_iff_mem.mpr arrow
    simp only [Rule.assignsByEquals, has, Bool.not_true, Bool.and_false, Bool.false_and]
  · have tested : Keyword.tests.any (hasWord · (phrase.statement number).code) = true := by
      refine List.any_eq_true.mpr ⟨phrase.head, tests, hasWord_of_mem ?_⟩
      rw [wordRuns_code]
      exact List.mem_cons_self
    simp only [Rule.assignsByEquals, tested, Bool.not_true, Bool.and_false]
  · have absent : (Rule.dropRelations (phrase.statement number).code).contains '=' = false := by
      rw [Bool.eq_false_iff]
      intro contains
      have member := dropRelations_subset _ (List.contains_iff_mem.mp contains)
      rw [code_statement] at member
      exact phrase.plain_code.not_mem (by decide) (by decide) (by simp [none])
        (Text.mem_of_mem_trim member)
    simp only [Rule.assignsByEquals, absent, Bool.and_false, Bool.false_and]

theorem isRecognized (number : Int) (phrase : Phrase scope) :
    Rule.isRecognized (phrase.statement number) = true := by
  rcases phrase.head_cases with ⟨word, -, head⟩ | ⟨target, value, rfl⟩
  · have reserved : (phrase.statement number).words.any Keyword.isReserved = true := by
      refine List.any_eq_true.mpr ⟨phrase.head, ?_, head ▸ word.isReserved⟩
      rw [Statement.words, statement, words_text]
      exact List.mem_cons_self
    simp only [Rule.isRecognized, reserved, Bool.true_or]
  · have has : ((assign target value).statement number).hasArrow = true :=
      List.contains_iff_mem.mpr (by simp [statement, text, tail])
    simp only [Rule.isRecognized, has, Bool.or_true, Bool.true_or]

theorem wordingFindings_eq_nil (number : Int) (phrase : Phrase scope) :
    Rule.wordingFindings (phrase.statement number) = [] := by
  have shapes : (wordRuns (phrase.statement number).code).flatMap Rule.nameShapeFindings = [] := by
    rw [List.flatMap_eq_nil_iff]
    intro word member
    exact nameShapeFindings_of_lawful (lawful_of_mem_wordRuns member)
  simp [Rule.wordingFindings, Rule.whenever, not_assignsByEquals, isRecognized, shapes]

/-- A first word that is not reserved is followed by the assignment sign. -/
theorem unknownWordFindings_eq_nil (number : Int) (phrase : Phrase scope) (table : SymbolTable) :
    Rule.unknownWordFindings (phrase.statement number) table = [] := by
  have known : Rule.isUnknownWord (phrase.statement number) table = false := by
    unfold Rule.isUnknownWord
    rw [firstWord_statement]
    rcases phrase.head_cases with ⟨word, -, head⟩ | ⟨target, value, rfl⟩
    · have reserved : Keyword.reserved.contains phrase.head = true := by
        rw [head]
        exact List.contains_iff_mem.mpr word.mem_reserved
      simp only [reserved, Bool.not_true, Bool.false_and]
    · have arrow : Text.trimStart (((assign target value).statement number).text.drop
          (assign target value).head.length) = assignArrow :: ' ' :: value.text := by
        rw [statement, text, List.drop_left]
        rfl
      have follows : Rule.nameFollowers.any
          (Text.startsWith (assignArrow :: ' ' :: value.text) ·) = true := by
        refine List.any_eq_true.mpr ⟨"←", List.mem_cons_self, ?_⟩
        rw [Text.startsWith, String.toList_ofList]
        rfl
      simp only [arrow, follows, Bool.not_true, Bool.and_false, Bool.false_and]
  simp [Rule.unknownWordFindings, Rule.whenever, known]

/-! ## Words of the code -/

/-- The names of a line are reserved words in capitals or variables in scope. -/
theorem names_cases {number : Int} {phrase : Phrase scope} {use : NameUse}
    (member : use ∈ nameUses (phrase.statement number).code) :
    (∃ core : CoreWord, use.name = core.text) ∨ ∃ used : Variable scope, use.name = used.text :=
  (lawful_of_mem_wordRuns (mem_wordRuns_of_mem_nameUses member)).cases_of_isName
    (isName_of_mem_nameUses member)

theorem keywordFindings_eq_nil (number : Int) (phrase : Phrase scope) :
    Rule.keywordFindings (phrase.statement number) = [] := by
  have spelled : ∀ word ∈ (phrase.statement number).names,
      (Keyword.isReserved word && word != word.upper) = false ∧ Keyword.isForeign word = false := by
    intro word member
    obtain ⟨use, found, rfl⟩ := List.mem_map.mp member
    rcases names_cases found with ⟨core, same⟩ | ⟨used, same⟩
    · rw [same]
      exact ⟨by simp [core.upper_text], core.not_isForeign⟩
    · rw [same]
      exact ⟨by simp [used.notReserved], used.notForeign⟩
  simp only [Rule.keywordFindings, List.append_eq_nil_iff, List.map_eq_nil_iff,
    List.filter_eq_nil_iff, Bool.not_eq_true]
  exact ⟨fun word member => (spelled word member).1, fun word member => (spelled word member).2⟩

theorem usageFindings_eq_nil (number : Int) (phrase : Phrase scope) {table : SymbolTable}
    (declared : ∀ used : Variable scope, table.isDeclared used.text = true) :
    Rule.usageFindings (phrase.statement number) table = [] := by
  have fine : ∀ use ∈ nameUses (phrase.statement number).code,
      (Rule.isVariableUse use && !table.isDeclared use.name) = false := by
    intro use member
    rcases names_cases member with ⟨core, same⟩ | ⟨used, same⟩
    · simp only [Rule.isVariableUse, same, core.isReserved, Bool.not_true, Bool.false_and]
    · simp only [same, declared, Bool.not_true, Bool.and_false]
  unfold Rule.usageFindings
  split
  · rw [List.map_eq_nil_iff, List.filter_eq_nil_iff]
    exact fun use member => Bool.eq_false_iff.mp (fine use member)
  · rfl

/-! ## Shapes -/

theorem constantFindings_eq_nil (number : Int) (phrase : Phrase scope) :
    Rule.constantFindings (phrase.statement number) = [] := by
  simp only [Rule.constantFindings, phrase.not_startsWith_constant number, Bool.false_eq_true,
    ↓reduceIte]

theorem fileFindings_eq_nil (config : Config) (number : Int) (phrase : Phrase scope) :
    Rule.fileFindings config (phrase.statement number) = [] := by
  simp only [Rule.fileFindings, phrase.not_startsWith_openFile number, Bool.false_eq_true,
    ↓reduceIte]

theorem firstWord_ne (number : Int) (phrase : Phrase scope) {word : Text}
    (other : word ∈ otherWords) : ((phrase.statement number).firstWord == word) = false := by
  rw [firstWord_statement, beq_eq_false_iff_ne]
  rintro rfl
  exact phrase.head_not_mem_otherWords other

theorem subprogramFindings_eq_nil (number : Int) (phrase : Phrase scope) :
    Rule.subprogramFindings (phrase.statement number) = [] := by
  simp only [Rule.subprogramFindings, phrase.firstWord_ne number List.mem_cons_self,
    Bool.false_eq_true, ↓reduceIte]

/-- A line does not begin with a word that core programs do not use, followed by a space. -/
theorem not_startsWith_spaced (number : Int) (phrase : Phrase scope) {word : Text}
    (other : word ∈ otherWords) (rest : Text) :
    (phrase.statement number).startsWith (word ++ ' ' :: rest) = false := by
  have spaceless : ' ' ∉ word := not_mem_of_isName (isName_of_mem_otherWords other) (by decide)
  rw [Bool.eq_false_iff]
  intro starts
  have same := head_eq_of_startsWith spaceless starts
  exact phrase.head_not_mem_otherWords (same ▸ other)

theorem callFindings_eq_nil (number : Int) (phrase : Phrase scope) (table : SymbolTable) :
    Rule.callFindings (phrase.statement number) table = [] := by
  have call : ("CALL " : Text) = "CALL" ++ ' ' :: [] := by simp
  have other : ("CALL" : Text) ∈ otherWords :=
    List.mem_cons_of_mem _ (List.mem_cons_of_mem _ (List.mem_cons_of_mem _ List.mem_cons_self))
  have plain := phrase.not_startsWith_spaced number other []
  rw [← call] at plain
  simp only [Rule.callFindings, plain, Bool.false_eq_true, ↓reduceIte]

private theorem mem_wordRuns_behind {c : Char} {left right word : Text}
    (between : isWordChar c = false) (member : word ∈ wordRuns right) :
    word ∈ wordRuns (left ++ c :: right) := by
  rw [wordRuns_append_cons between]
  exact List.mem_append_right _ member

theorem mem_wordRuns_forRange (counter : Variable scope) (first last : Expr scope) :
    CoreWord.toWord.text ∈ wordRuns (forRange counter first last).code := by
  have space : isWordChar ' ' = false := by decide
  have arrow := not_isWordChar_arrow
  have bound : CoreWord.toWord.text ∈ wordRuns (CoreWord.toWord.text ++ ' ' :: last.text) := by
    obtain ⟨nonempty, inside⟩ := CoreWord.toWord.isWord
    rw [wordRuns_append_cons space, wordRuns_of_word nonempty inside]
    exact List.mem_append_left _ (List.mem_singleton.mpr rfl)
  have range : CoreWord.toWord.text ∈ wordRuns (assignArrow :: ' ' ::
      (first.text ++ ' ' :: (CoreWord.toWord.text ++ ' ' :: last.text))) := by
    rw [wordRuns_cons_of_not_word arrow, wordRuns_cons_of_not_word space]
    exact mem_wordRuns_behind space bound
  exact mem_wordRuns_behind space (mem_wordRuns_behind space range)

/-- The header of a counted loop has its assignment sign and its `TO`. -/
theorem for_shape {number : Int} {phrase : Phrase scope}
    (counts : (phrase.statement number).firstWord = "FOR") :
    (phrase.statement number).hasArrow = true ∧
      hasWord "TO" (phrase.statement number).code = true := by
  rw [firstWord_statement] at counts
  have kind : phrase.keyword? = some .forWord := keyword?_of_head_eq counts
  cases phrase with
  | forRange counter first last =>
    exact ⟨List.contains_iff_mem.mpr (by simp [statement, text, tail]),
      hasWord_of_mem (mem_wordRuns_forRange counter first last)⟩
  | _ => cases kind

theorem shapeFindings_eq_nil (number : Int) (phrase : Phrase scope) :
    Rule.shapeFindings (phrase.statement number) = [] := by
  have parentheses : (phrase.statement number).code.contains '(' = false := by
    rw [List.contains_eq_mem, decide_eq_false_iff_not]
    exact phrase.not_mem_code_statement number (by decide) (by decide)
  have case : ("CASE OF" : Text) = "CASE" ++ ' ' :: "OF" := by simp
  have other : ("CASE" : Text) ∈ otherWords :=
    List.mem_cons_of_mem _ (List.mem_cons_of_mem _ List.mem_cons_self)
  have selection := phrase.not_startsWith_spaced number other "OF"
  rw [← case] at selection
  have loop : ((phrase.statement number).firstWord == "FOR" &&
      !((phrase.statement number).hasArrow &&
        hasWord "TO" (phrase.statement number).code)) = false := by
    by_cases counts : (phrase.statement number).firstWord = "FOR"
    · obtain ⟨arrow, bound⟩ := for_shape counts
      rw [arrow, bound, Bool.and_self, Bool.not_true, Bool.and_false]
    · rw [beq_false_of_ne counts, Bool.false_and]
  simp only [Rule.shapeFindings, Rule.whenever, loop, selection, parentheses, Bool.and_false,
    Bool.false_and, Bool.false_eq_true, ↓reduceIte, List.append_nil]

/-! ## Literals -/

/-- No line has both an assignment sign and a literal. -/
theorem not_quote_of_arrow {phrase : Phrase scope} (arrow : assignArrow ∈ phrase.text) :
    '"' ∉ phrase.text := by
  have plain : phrase.keyword? ≠ some .output := by
    rcases arrow_cases arrow with ⟨target, value, rfl⟩ | ⟨counter, first, last, rfl⟩
    · intro kind
      cases kind
    · intro kind
      cases kind
  rw [text_eq_code plain]
  exact phrase.not_quote_code

theorem stringAssignment_eq_none (phrase : Phrase scope) :
    Form.stringAssignment.first? phrase.text = none := by
  by_cases arrow : assignArrow ∈ phrase.text
  · exact Form.stringAssignment_needs_quote.first?_eq_none (not_quote_of_arrow arrow)
  · exact Form.stringAssignment_needs_arrow.first?_eq_none arrow

theorem literalFindings_eq_nil (number : Int) (phrase : Phrase scope) (table : SymbolTable) :
    Rule.literalFindings (phrase.statement number) table = [] := by
  have closed : (phrase.statement number).hasUnclosedString = false := by
    rw [Statement.hasUnclosedString, statement, phrase.count_quote]
    rfl
  have chars : charLiterals (phrase.statement number).text = [] :=
    phrase.leavesPlain.charLiterals_eq_nil
  have assigned : Form.stringAssignment.first? (phrase.statement number).text = none :=
    phrase.stringAssignment_eq_none
  simp only [Rule.literalFindings, Rule.whenever, Rule.stringAssignmentFindings, closed, chars,
    assigned, Bool.false_eq_true, ↓reduceIte, List.flatMap_nil, List.append_nil]

/-! ## Uses -/

theorem not_bracket_code (number : Int) (phrase : Phrase scope) :
    '[' ∉ (phrase.statement number).code :=
  phrase.not_mem_code_statement number (by decide) (by decide)

theorem accesses_eq_nil (number : Int) (phrase : Phrase scope) :
    (phrase.statement number).accesses = [] :=
  Statement.accesses_eq_nil_of_free (phrase.not_bracket_code number)

theorem array?_eq_none (number : Int) (phrase : Phrase scope) :
    (phrase.statement number).array? = none :=
  Statement.array?_eq_none_of_free (phrase.not_bracket_code number)

/-- Core programs have no bounds and no indices, so all their numbers can be read. -/
theorem not_overlong (number : Int) (phrase : Phrase scope) :
    ¬ (phrase.statement number).Overlong :=
  Statement.not_overlong_of_free (phrase.not_bracket_code number)

theorem isName_head (phrase : Phrase scope) : isName phrase.head = true := by
  rcases phrase.head_cases with ⟨word, -, head⟩ | ⟨target, value, rfl⟩
  · rw [head]
    exact word.isName
  · exact target.toName.isName

/-- The name at the start of a line is its first word. -/
theorem name_text (phrase : Phrase scope) :
    Form.name phrase.text = some (phrase.head, phrase.tail) := by
  have stops : phrase.tail.takeWhile isNameChar = [] := by
    rcases phrase.tail_cases with ends | ⟨rest, continues⟩
    · rw [ends]
      rfl
    · rw [continues]
      rfl
  exact Form.name_append_of_isName phrase.isName_head stops

/-- Only an assignment assigns, and to its target. -/
theorem assignedName_cases {phrase : Phrase scope} {name : Text}
    (assigned : Form.assignedName phrase.text = some name) :
    ∃ target value, phrase = .assign target value ∧ name = target.text := by
  simp only [Form.assignedName, name_text, bind, Option.bind_some, Option.bind_eq_some_iff]
    at assigned
  obtain ⟨rest, arrow, same⟩ := assigned
  cases same
  have present : assignArrow ∈ phrase.text :=
    List.mem_append_right _ ((Form.trimStart_suffix _).subset (Form.mem_of_mark arrow))
  rcases arrow_cases present with ⟨target, value, rfl⟩ | ⟨counter, first, last, rfl⟩
  · exact ⟨target, value, rfl, rfl⟩
  · -- After the first word stands the counter, not the assignment sign.
    obtain ⟨behind, shape⟩ : ∃ behind, (forRange counter first last).tail =
        ' ' :: (counter.text ++ behind) := ⟨_, rfl⟩
    have trimmed : Text.trimStart (' ' :: (counter.text ++ behind)) = counter.text ++ behind :=
      counter.toName.isWord.trimStart_append behind
    obtain ⟨c, others, split, letter⟩ := counter.toName.isWord.exists_cons
    rw [shape, trimmed, split, List.cons_append, Form.mark] at arrow
    split at arrow
    · rename_i same
      rw [beq_iff_eq.mp same, not_isWordChar_arrow] at letter
      cases letter
    · cases arrow

theorem targetFindings_eq_nil (number : Int) (phrase : Phrase scope) {table : SymbolTable}
    (declared : ∀ used : Variable scope, table.isDeclared used.text = true) :
    Rule.targetFindings (phrase.statement number) table = [] := by
  unfold Rule.targetFindings
  split
  · rename_i name assigned
    obtain ⟨target, value, -, rfl⟩ := assignedName_cases assigned
    simp only [declared, Rule.whenever, Bool.not_true, Bool.false_eq_true, ↓reduceIte]
  · rfl

theorem useFindings_eq_nil (number : Int) (phrase : Phrase scope) {table : SymbolTable}
    (declared : ∀ used : Variable scope, table.isDeclared used.text = true) :
    Rule.useFindings (phrase.statement number) table = [] := by
  simp only [Rule.useFindings, accesses_eq_nil, targetFindings_eq_nil number phrase declared,
    usageFindings_eq_nil number phrase declared, callFindings_eq_nil, List.flatMap_nil,
    List.append_nil]

/-! ## The table -/

/-- Only declarations of variables change the table. -/
theorem registered_eq_declareTable (number : Int) (phrase : Phrase scope) (table : SymbolTable) :
    Rule.registered (phrase.statement number) table =
      Rule.declareTable (phrase.statement number) table := by
  have notConstant := phrase.not_startsWith_constant number
  have notFunction := phrase.firstWord_ne number List.mem_cons_self
  have notProcedure := phrase.firstWord_ne number (List.mem_cons_of_mem _ List.mem_cons_self)
  simp only [Rule.registered, Rule.subprogramTable, Rule.constantTable, notConstant, notFunction,
    notProcedure, Bool.false_eq_true, ↓reduceIte]

theorem not_startsWith_declare (number : Int) {phrase : Phrase scope}
    (other : phrase.keyword? ≠ some .declare) :
    (phrase.statement number).startsWith "DECLARE" = false := by
  rw [Bool.eq_false_iff]
  exact fun starts => other (eq_declare_of_startsWith List.mem_cons_self starts).2

theorem registered_of_not_declare (number : Int) {phrase : Phrase scope}
    (other : phrase.keyword? ≠ some .declare) (table : SymbolTable) :
    Rule.registered (phrase.statement number) table = table := by
  simp only [registered_eq_declareTable, Rule.declareTable, not_startsWith_declare number other,
    Bool.false_eq_true, ↓reduceIte]

theorem declareFindings_of_not_declare (number : Int) {phrase : Phrase scope}
    (other : phrase.keyword? ≠ some .declare) (table : SymbolTable) :
    Rule.declareFindings (phrase.statement number) table = [] := by
  simp only [Rule.declareFindings, not_startsWith_declare number other, Bool.false_eq_true,
    ↓reduceIte]

/-- Past its declaration rule, no rule finds anything on a line whose variables are declared. -/
theorem laterFindings_eq_nil (config : Config) (number : Int) (phrase : Phrase scope)
    {table : SymbolTable} (silent : Rule.declareFindings (phrase.statement number) table = [])
    (declared : ∀ used : Variable scope,
      (Rule.registered (phrase.statement number) table).isDeclared used.text = true) :
    Rule.laterFindings config (phrase.statement number) table = [] := by
  simp only [Rule.laterFindings, keywordFindings_eq_nil, silent, constantFindings_eq_nil,
    subprogramFindings_eq_nil, shapeFindings_eq_nil, literalFindings_eq_nil,
    useFindings_eq_nil number phrase declared, fileFindings_eq_nil, List.append_nil]

end Phrase

end PseudoLint.Core
