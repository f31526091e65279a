import PseudoLint.Check
import PseudoLint.Proofs.Form

/-! # What one line does

A rule may fail, but on the states that a check reaches only a number with too many digits makes one
fail: an integer literal that is to be read, or the unit of indentation where a finding has to name
it. This module states once what a line does otherwise, as total functions: the blocks that remain
open (`turnBlocks`), the table that it leaves (`registered`) and what it finds (`findings`).
`inspect_of_readable` and `inspect_of_overlong` say that applying all rules to a line is exactly
this, and the later modules never open the sequence of rules again.
-/

namespace PseudoLint

/-- A step that succeeds on every item succeeds on the whole list. -/
theorem mapM_eq_ok {α β ε : Type} {step : α → Except ε β} {result : α → β} {items : List α}
    (succeeds : ∀ item ∈ items, step item = .ok (result item)) :
    items.mapM step = .ok (items.map result) := by
  induction items with
  | nil => rfl
  | cons item rest ih =>
    simp only [List.mapM_cons, succeeds item List.mem_cons_self, bind, Except.bind, pure,
      Except.pure, ih fun other member => succeeds other (List.mem_cons_of_mem _ member),
      List.map_cons]

namespace Numeral.Literal

/-- Whether a literal has more digits than can be read. -/
def overlong (literal : Literal) : Bool :=
  decide (digitLimit < literal.digits.length)

/-- The integer that a literal writes, however long it is. -/
def number (literal : Literal) : Int :=
  if literal.negative then -(digitsValue literal.digits : Int) else digitsValue literal.digits

end Numeral.Literal

theorem literalValue_of_overlong {literal : Numeral.Literal} (long : literal.overlong = true) :
    literalValue literal = .error (.tooManyDigits (some literal.digits.length)) := by
  simp only [Numeral.Literal.overlong, decide_eq_true_eq] at long
  rw [literalValue, Numeral.Literal.value, if_pos long]
  rfl

theorem literalValue_of_readable {literal : Numeral.Literal} (short : literal.overlong = false) :
    literalValue literal = .ok literal.number := by
  simp only [Numeral.Literal.overlong, decide_eq_false_iff_not] at short
  rw [literalValue, Numeral.Literal.value, if_neg short]
  rfl

/-! ## Numbers on a line -/

namespace Statement

/-- The array that a declaration with literal bounds declares. -/
def array? (statement : Statement) : Option ArraySymbol :=
  (Form.arrayDeclaration.first? statement.code).map fun found =>
    ⟨found.1, found.2.1.number, found.2.2.number, statement.line⟩

/-- The accesses with a literal index, each with the number it writes. -/
def accesses (statement : Statement) : List (Text × Int) :=
  (Form.arrayAccess.all statement.code).map fun found => (found.1, found.2.number)

/-- A declaration whose array has a bound with more digits than can be read. -/
def HasOverlongBound (statement : Statement) : Prop :=
  statement.startsWith "DECLARE" = true ∧
    ∃ name lower upper, Form.arrayDeclaration.first? statement.code = some (name, lower, upper) ∧
      (Numeral.digitLimit < lower.digits.length ∨ Numeral.digitLimit < upper.digits.length)

/-- An access whose literal index has more digits than can be read. -/
def HasOverlongIndex (statement : Statement) : Prop :=
  ∃ name index, (name, index) ∈ Form.arrayAccess.all statement.code ∧
    Numeral.digitLimit < index.digits.length

/-- Whether a number on a line has more digits than can be read. -/
def Overlong (statement : Statement) : Prop :=
  statement.HasOverlongBound ∨ statement.HasOverlongIndex

/-! ### Lines without brackets -/

section

variable {statement : Statement} (free : '[' ∉ statement.code)

include free

theorem accesses_eq_nil_of_free : statement.accesses = [] := by
  rw [accesses, Form.arrayAccess_needs.all_eq_nil free]
  rfl

theorem array?_eq_none_of_free : statement.array? = none := by
  rw [array?, Form.arrayDeclaration_needs.first?_eq_none free]
  rfl

/-- A line without brackets has no bounds and no indices, so all its numbers can be read. -/
theorem not_overlong_of_free : ¬ statement.Overlong := by
  rintro (⟨-, name, lower, upper, found, -⟩ | ⟨name, index, member, -⟩)
  · rw [Form.arrayDeclaration_needs.first?_eq_none free] at found
    cases found
  · rw [Form.arrayAccess_needs.all_eq_nil free] at member
    cases member

end

end Statement

namespace Rule

theorem declaredArray?_of_readable {statement : Statement}
    (declares : statement.startsWith "DECLARE" = true) (readable : ¬ statement.HasOverlongBound) :
    declaredArray? statement = .ok statement.array? := by
  cases found : Form.arrayDeclaration.first? statement.code with
  | none => simp only [declaredArray?, Statement.array?, found, Option.map_none]
  | some bounds =>
    obtain ⟨name, lower, upper⟩ := bounds
    have short : lower.overlong = false ∧ upper.overlong = false := by
      simp only [Numeral.Literal.overlong, decide_eq_false_iff_not]
      constructor
      · intro long
        exact readable ⟨declares, name, lower, upper, found, .inl long⟩
      · intro long
        exact readable ⟨declares, name, lower, upper, found, .inr long⟩
    simp only [declaredArray?, Statement.array?, found, literalValue_of_readable short.1,
      literalValue_of_readable short.2, Option.map_some]
    rfl

theorem declaredArray?_of_overlong {statement : Statement} (long : statement.HasOverlongBound) :
    ∃ count, Numeral.digitLimit < count ∧
      declaredArray? statement = .error (.tooManyDigits (some count)) := by
  obtain ⟨-, name, lower, upper, found, bound⟩ := long
  simp only [declaredArray?, found]
  cases first : lower.overlong with
  | true =>
    rw [literalValue_of_overlong first]
    exact ⟨_, of_decide_eq_true first, rfl⟩
  | false =>
    have second : upper.overlong = true :=
      decide_eq_true (bound.resolve_left (of_decide_eq_false first))
    rw [literalValue_of_readable first, literalValue_of_overlong second]
    exact ⟨_, of_decide_eq_true second, rfl⟩

private theorem mapM_literalValue_of_overlong (found : List (Text × Numeral.Literal))
    (long : ∃ access ∈ found, access.2.overlong = true) :
    ∃ count, Numeral.digitLimit < count ∧
      (found.mapM fun (name, index) => do
        let index ← literalValue index
        pure (name, index)) = Except.error (.tooManyDigits (some count)) := by
  induction found with
  | nil => simp at long
  | cons access rest ih =>
    obtain ⟨name, index⟩ := access
    simp only [List.mapM_cons]
    cases head : index.overlong with
    | true =>
      rw [literalValue_of_overlong head]
      exact ⟨_, of_decide_eq_true head, rfl⟩
    | false =>
      have later : ∃ access ∈ rest, access.2.overlong = true := by simpa [head] using long
      obtain ⟨count, many, failed⟩ := ih later
      rw [literalValue_of_readable head, failed]
      exact ⟨count, many, rfl⟩

theorem accesses_of_readable {statement : Statement} (readable : ¬ statement.HasOverlongIndex) :
    accesses statement = .ok statement.accesses := by
  apply mapM_eq_ok
  rintro ⟨name, index⟩ member
  have short : index.overlong = false :=
    decide_eq_false fun long => readable ⟨name, index, member, long⟩
  simp only [literalValue_of_readable short]
  rfl

theorem accesses_of_overlong {statement : Statement} (long : statement.HasOverlongIndex) :
    ∃ count, Numeral.digitLimit < count ∧
      accesses statement = .error (.tooManyDigits (some count)) := by
  obtain ⟨name, index, member, many⟩ := long
  exact mapM_literalValue_of_overlong _ ⟨(name, index), member, decide_eq_true many⟩

end Rule

/-! ## Blocks -/

/-- An ending that is tolerated closes its opening anyway. -/
theorem Keyword.closer?_of_tolerated {opener ending : Text}
    (tolerated : (opener, ending) ∈ Keyword.tolerated) : Keyword.closer? opener = some ending := by
  have closes : ∀ pair ∈ Keyword.tolerated, Keyword.closer? pair.1 = some pair.2 := by decide
  exact closes _ tolerated

/-- Every open block was opened by a word that opens blocks. -/
def BlockStack.Known (blocks : BlockStack) : Prop :=
  ∀ frame ∈ blocks, Keyword.isOpener frame.keyword = true

namespace Rule

/-- The blocks that are open after a line, and what is wrong with its closing word. -/
def turnBlocks (statement : Statement) (blocks : BlockStack) : BlockStack × List Finding :=
  let word := statement.firstWord
  if Keyword.isOpener word then (blocks.push ⟨word, statement.line⟩, [])
  else if Keyword.isCloser word then
    match blocks with
    | [] => ([], [.unexpectedCloser word])
    | frame :: rest =>
      let expected := frame.closer?.getD []
      (rest, whenever (word != expected) (.mismatchedCloser expected word))
  else (blocks, [])

/-- Blocks are moved in one way, except where the innermost one was opened by a word that opens
none. -/
theorem moveBlocks_eq_or (statement : Statement) (blocks : BlockStack) :
    moveBlocks statement blocks = .ok (turnBlocks statement blocks) ∨
      (¬ blocks.Known ∧ ∃ fault, moveBlocks statement blocks = .error fault) := by
  unfold moveBlocks turnBlocks
  dsimp only
  split
  · exact .inl rfl
  split
  · cases blocks with
    | nil => exact .inl rfl
    | cons frame rest =>
      cases found : frame.closer? with
      | none =>
        refine .inr ⟨fun known => ?_, .unknownOpener frame.keyword, ?_⟩
        · have opens : frame.closer?.isSome = true := known frame List.mem_cons_self
          rw [found] at opens
          cases opens
        · simp only [BlockStack.close, found]
      | some closer =>
        left
        -- What is tolerated closes the block, so only the closing word of the frame fits.
        have fits : (statement.firstWord == closer ||
            Keyword.tolerated.contains (frame.keyword, statement.firstWord)) =
              (statement.firstWord == closer) := by
          rw [Bool.or_eq_left_iff_imp, List.contains_iff_mem, beq_iff_eq]
          intro tolerated
          have closes := Keyword.closer?_of_tolerated tolerated
          rw [show Keyword.closer? frame.keyword = some closer from found] at closes
          exact (Option.some.inj closes).symm
        simp only [BlockStack.close, found, fits, Option.getD_some, whenever]
        by_cases same : statement.firstWord = closer <;> simp [same]
  · exact .inl rfl

theorem turnBlocks_known {statement : Statement} {blocks : BlockStack} (known : blocks.Known) :
    (turnBlocks statement blocks).1.Known := by
  unfold turnBlocks
  dsimp only
  split
  · rename_i opens
    intro frame member
    rcases List.mem_cons.mp member with rfl | member
    · exact opens
    · exact known frame member
  split
  · cases blocks with
    | nil => exact known
    | cons frame rest => exact fun other member => known other (List.mem_cons_of_mem _ member)
  · exact known

/-- Words that open or close blocks are written in capitals, so a first word of any other shape
leaves the blocks alone. -/
theorem turnBlocks_of_not_capitals {statement : Statement}
    (lower : isAllCapitals statement.firstWord = false) (blocks : BlockStack) :
    turnBlocks statement blocks = (blocks, []) := by
  have capitals : ∀ entry ∈ Keyword.blocks,
      isAllCapitals entry.1 = true ∧ isAllCapitals entry.2 = true := by decide
  have opens : Keyword.isOpener statement.firstWord = false := by
    rw [Keyword.isOpener, Keyword.closer?, Option.isSome_eq_false_iff, Option.isNone_iff_eq_none,
      List.lookup_eq_none_iff]
    intro entry member
    have upper := (capitals entry member).1
    exact bne_iff_ne.mpr fun same => by rw [← same, lower] at upper; cases upper
  have closes : Keyword.isCloser statement.firstWord = false := by
    rw [Keyword.isCloser, List.contains_eq_mem, decide_eq_false_iff_not, List.mem_map]
    rintro ⟨entry, member, same⟩
    have upper := (capitals entry member).2
    rw [same, lower] at upper
    cases upper
  simp only [turnBlocks, opens, closes, Bool.false_eq_true, ↓reduceIte]

/-- The rule on first words in terms of `turnBlocks`: only a word in capitals can be unknown. -/
def unknownWordFindings (statement : Statement) (table : SymbolTable) : List Finding :=
  if isAllCapitals statement.firstWord then
    whenever (isUnknownWord statement table) (.unknownKeyword statement.firstWord)
  else []

/-- What the rule on first words leaves and finds. -/
def turned (statement : Statement) (state : State) : State × List Finding :=
  ({ state with blocks := (turnBlocks statement state.blocks).1 },
    unknownWordFindings statement state.table ++ (turnBlocks statement state.blocks).2)

theorem firstWord_eq_or (config : Config) (statement : Statement) (state : State) :
    firstWord config statement state = .ok (turned statement state) ∨
      (¬ state.blocks.Known ∧ ∃ fault, firstWord config statement state = .error fault) := by
  cases capitals : isAllCapitals statement.firstWord with
  | true =>
    rcases moveBlocks_eq_or statement state.blocks with moved | ⟨unknown, fault, failed⟩
    · left
      simp only [firstWord, turned, unknownWordFindings, capitals, ↓reduceIte, moved]
      rfl
    · refine .inr ⟨unknown, fault, ?_⟩
      simp only [firstWord, capitals, ↓reduceIte, failed]
      rfl
  | false =>
    left
    simp [firstWord, turned, unknownWordFindings, capitals, turnBlocks_of_not_capitals capitals]

theorem firstWord_eq {config : Config} {statement : Statement} {state : State}
    (known : state.blocks.Known) :
    firstWord config statement state = .ok (turned statement state) :=
  (firstWord_eq_or config statement state).resolve_right fun unknown => unknown.1 known

/-! ## The symbol table -/

/-- The table after the variables and the array of a declaration. -/
def declareTable (statement : Statement) (table : SymbolTable) : SymbolTable :=
  if statement.startsWith "DECLARE" then
    (statement.array?.map (declareNames statement table).1.declareArray).getD
      (declareNames statement table).1
  else table

/-- The table after the constant of a constant declaration. -/
def constantTable (statement : Statement) (table : SymbolTable) : SymbolTable :=
  if statement.startsWith "CONSTANT" then (declaredConstant? statement).elim table table.bind
  else table

/-- The table after the parameters of a header and the function it declares. -/
def subprogramTable (statement : Statement) (table : SymbolTable) : SymbolTable :=
  if statement.firstWord == "FUNCTION" then
    (declaredFunction? statement).elim (bindParameters (parameters statement) table)
      (bindParameters (parameters statement) table).declareFunction
  else if statement.firstWord == "PROCEDURE" then bindParameters (parameters statement) table
  else table

/-- The table that a line leaves. -/
def registered (statement : Statement) (table : SymbolTable) : SymbolTable :=
  subprogramTable statement (constantTable statement (declareTable statement table))

/-! ## Findings -/

/-- What the rules on the wording of a line find before its first word is looked at. -/
def wordingFindings (statement : Statement) : List Finding :=
  whenever (assignsByEquals statement) .equalsAssignment ++
    ((wordRuns statement.code).flatMap nameShapeFindings ++
      whenever (!isRecognized statement) .unrecognizedLine)

/-- Reserved words not in capitals and words of other languages. -/
def keywordFindings (statement : Statement) : List Finding :=
  (statement.names.filter fun word => Keyword.isReserved word && word != word.upper).map
      .keywordCase ++
    (statement.names.filter Keyword.isForeign).map .foreignKeyword

/-- What is wrong with a declaration of variables. -/
def declareFindings (statement : Statement) (table : SymbolTable) : List Finding :=
  if statement.startsWith "DECLARE" then
    (declareNames statement table).2 ++ declarationFormFindings statement
  else []

/-- What is wrong with a declaration of a constant. -/
def constantFindings (statement : Statement) : List Finding :=
  if statement.startsWith "CONSTANT" then
    whenever (!statement.text.contains '=') .constantWithoutEquals ++
      whenever statement.hasArrow .constantWithArrow
  else []

/-- What is wrong with the header of a function. -/
def subprogramFindings (statement : Statement) : List Finding :=
  if statement.firstWord == "FUNCTION" then
    whenever (returnType? statement).isNone .functionWithoutReturns
  else []

/-- What is wrong with the shape of a loop or a selection. -/
def shapeFindings (statement : Statement) : List Finding :=
  whenever (statement.firstWord == "FOR" && !(statement.hasArrow && hasWord "TO" statement.code))
      .forShape ++
    (whenever (statement.startsWith "CASE OF" && !hasWord "OF" statement.code) .caseShape ++
      whenever
        (statement.firstWord == "WHILE" && statement.code.contains '(' &&
          statement.code.contains ')')
        .whileParentheses)

/-- What is wrong with the literals of a line. -/
def literalFindings (statement : Statement) (table : SymbolTable) : List Finding :=
  whenever statement.hasUnclosedString .unclosedString ++
    ((charLiterals statement.text).flatMap charLiteralFindings ++
      stringAssignmentFindings statement table)

/-- What is wrong with the name that a line assigns to. -/
def targetFindings (statement : Statement) (table : SymbolTable) : List Finding :=
  match Form.assignedName statement.text with
  | some name => whenever (!table.isDeclared name) (.undeclared name)
  | none => []

/-- What is wrong with the variables that a line reads. -/
def usageFindings (statement : Statement) (table : SymbolTable) : List Finding :=
  if readsVariables statement then
    ((nameUses statement.code).filter fun use =>
      isVariableUse use && !table.isDeclared use.name).map (.undeclared ·.name)
  else []

/-- What is wrong with a call. -/
def callFindings (statement : Statement) (table : SymbolTable) : List Finding :=
  if statement.startsWith "CALL " then
    match Form.callName.first? statement.text with
    | some name => whenever (table.isFunction name) (.functionCalled name)
    | none => []
  else []

/-- What is wrong with the accesses, the names and the calls of a line. -/
def useFindings (statement : Statement) (table : SymbolTable) : List Finding :=
  statement.accesses.flatMap (accessFindings table) ++
    (targetFindings statement table ++
      (usageFindings statement table ++ callFindings statement table))

/-- What is wrong with the opening of a file. -/
def fileFindings (config : Config) (statement : Statement) : List Finding :=
  if statement.startsWith "OPENFILE" then openFileFindings config statement else []

/-- What the rules find on a statement apart from its place among the blocks, once its first word
has been looked at. The rules on declarations see the table before the line, those on uses the
table after it. -/
def laterFindings (config : Config) (statement : Statement) (table : SymbolTable) :
    List Finding :=
  let after := registered statement table
  keywordFindings statement ++ (declareFindings statement table ++ (constantFindings statement ++
    (subprogramFindings statement ++ (shapeFindings statement ++ (literalFindings statement after ++
      (useFindings statement after ++ fileFindings config statement))))))

theorem declare_eq {config : Config} {statement : Statement} {state : State}
    (readable : ¬ statement.HasOverlongBound) :
    declare config statement state =
      .ok ({ state with table := declareTable statement state.table },
        declareFindings statement state.table) := by
  cases declares : statement.startsWith "DECLARE" with
  | true =>
    simp only [declare, declareTable, declareFindings, declares, ↓reduceIte,
      declaredArray?_of_readable declares readable]
    rfl
  | false =>
    simp only [declare, declareTable, declareFindings, declares, Bool.false_eq_true, ↓reduceIte]

theorem arrayBounds_eq {config : Config} {statement : Statement} {state : State}
    (readable : ¬ statement.HasOverlongIndex) :
    arrayBounds config statement state =
      .ok (state, statement.accesses.flatMap (accessFindings state.table)) := by
  simp only [arrayBounds, accesses_of_readable readable]
  rfl

theorem constant_eq (config : Config) (statement : Statement) (state : State) :
    constant config statement state =
      .ok ({ state with table := constantTable statement state.table },
        constantFindings statement) := by
  cases declares : statement.startsWith "CONSTANT" <;>
    simp only [constant, registering, constantTable, constantFindings, declares,
      Bool.false_eq_true, ↓reduceIte]

theorem subprogram_eq (config : Config) (statement : Statement) (state : State) :
    subprogram config statement state =
      .ok ({ state with table := subprogramTable statement state.table },
        subprogramFindings statement) := by
  cases function : statement.firstWord == "FUNCTION" <;>
    cases procedure : statement.firstWord == "PROCEDURE" <;>
      simp only [subprogram, registering, subprogramTable, subprogramFindings, function, procedure,
        Bool.false_eq_true, ↓reduceIte]

theorem assignmentTarget_eq :
    assignmentTarget = reporting fun _ statement state => targetFindings statement state.table :=
  rfl

theorem callShape_eq :
    callShape = reporting fun _ statement state => callFindings statement state.table :=
  rfl

/-- All rules on one readable statement. -/
theorem sequence_statementRules {config : Config} {statement : Statement} {state : State}
    (first : firstWord config statement state = .ok (turned statement state))
    (readable : ¬ statement.Overlong) :
    sequence statementRules config statement state =
      .ok (⟨registered statement state.table, (turnBlocks statement state.blocks).1⟩,
        wordingFindings statement ++ (unknownWordFindings statement state.table ++
          ((turnBlocks statement state.blocks).2 ++
            laterFindings config statement state.table))) := by
  have bounds : ¬ statement.HasOverlongBound := fun long => readable (.inl long)
  have indices : ¬ statement.HasOverlongIndex := fun long => readable (.inr long)
  simp only [statementRules, sequence, assignmentSign, nameShape, lineShape, first, turned,
    keywordCase, foreignKeyword, declare_eq bounds, constant_eq, subprogram_eq, forShape, caseShape,
    whileShape, unclosedString, charLiteral, arrayBounds_eq indices, assignmentTarget_eq, usage,
    callShape_eq, openFile, reporting, bind, Except.bind, pure, Except.pure]
  simp only [wordingFindings, laterFindings, keywordFindings, shapeFindings, literalFindings,
    useFindings, usageFindings, fileFindings, registered, List.append_nil, List.append_assoc]

theorem declare_of_overlong {statement : Statement} (long : statement.HasOverlongBound) :
    ∃ count, Numeral.digitLimit < count ∧
      ∀ config state, declare config statement state = .error (.tooManyDigits (some count)) := by
  obtain ⟨count, many, failed⟩ := declaredArray?_of_overlong long
  refine ⟨count, many, fun config state => ?_⟩
  simp only [declare, long.1, ↓reduceIte, failed]
  rfl

theorem arrayBounds_of_overlong {statement : Statement} (long : statement.HasOverlongIndex) :
    ∃ count, Numeral.digitLimit < count ∧
      ∀ config state,
        arrayBounds config statement state = .error (.tooManyDigits (some count)) := by
  obtain ⟨count, many, failed⟩ := accesses_of_overlong long
  refine ⟨count, many, fun config state => ?_⟩
  simp only [arrayBounds, failed]
  rfl

/-- An overlong number stops the rules; bounds are read before indices. -/
theorem sequence_statementRules_of_overlong {config : Config} {statement : Statement}
    {state : State} (first : firstWord config statement state = .ok (turned statement state))
    (long : statement.Overlong) :
    ∃ count, Numeral.digitLimit < count ∧
      sequence statementRules config statement state = .error (.tooManyDigits (some count)) := by
  by_cases bounds : statement.HasOverlongBound
  · obtain ⟨count, many, failed⟩ := declare_of_overlong bounds
    refine ⟨count, many, ?_⟩
    simp only [statementRules, sequence, assignmentSign, nameShape, lineShape, first, turned,
      keywordCase, foreignKeyword, failed, reporting, bind, Except.bind]
  · obtain ⟨count, many, failed⟩ := arrayBounds_of_overlong (long.resolve_left bounds)
    refine ⟨count, many, ?_⟩
    simp only [statementRules, sequence, assignmentSign, nameShape, lineShape, first, turned,
      keywordCase, foreignKeyword, declare_eq bounds, constant_eq, subprogram_eq, forShape,
      caseShape, whileShape, unclosedString, charLiteral, failed, reporting, bind, Except.bind]

/-! ## Layout -/

/-- What the rule on layout finds on a line. -/
def layoutFindings (config : Config) (line : Line) : List Finding :=
  whenever (Int.fmod line.indent config.indentUnit != 0) (.indentation config.indentUnit)

theorem layoutFindings_eq_nil_iff {config : Config} {line : Line} :
    layoutFindings config line = [] ↔ Int.fmod line.indent config.indentUnit = 0 := by
  simp [layoutFindings, whenever]

theorem layoutFindings_of_flush (config : Config) {line : Line} (flush : line.indent = 0) :
    layoutFindings config line = [] := by
  rw [layoutFindings_eq_nil_iff, flush]
  exact Int.zero_fmod _

end Rule

namespace Line

variable {config : Config} {line : Line}

/-- A line whose indentation is no multiple of a unit that is too long to be written. -/
def HasOverlongUnit (line : Line) (config : Config) : Prop :=
  Int.fmod line.indent config.indentUnit ≠ 0 ∧ Numeral.isWritable config.indentUnit = false

/-- Whether a line stops a check: a number on it is too long to be read, or the unit of its
indentation is to be written and too long for that. -/
def Overlong (line : Line) (config : Config) : Prop :=
  line.HasOverlongUnit config ∨ line.statement.Overlong

theorem overlong_iff_of_layout (silent : Rule.layoutFindings config line = []) :
    line.Overlong config ↔ line.statement.Overlong :=
  or_iff_right fun long => long.1 (Rule.layoutFindings_eq_nil_iff.mp silent)

end Line

/-- A fault about a number with too many digits: a literal that was to be read, or the unit of
indentation that was to be written. -/
def Fault.Overlong (config : Config) : Fault → Prop
  | .tooManyDigits (some count) => Numeral.digitLimit < count
  | .tooManyDigits none => Numeral.isWritable config.indentUnit = false
  | .zeroIndentUnit | .unknownOpener _ => False

namespace Rule

theorem indentation_of_readable {config : Config} {line : Line} (unit : config.indentUnit ≠ 0)
    (readable : ¬ line.HasOverlongUnit config) :
    indentation config line = .ok (layoutFindings config line) := by
  rw [indentation, if_neg unit, layoutFindings, whenever]
  by_cases fits : Int.fmod line.indent config.indentUnit = 0
  · simp only [fits, ↓reduceIte, bne_self_eq_false, Bool.false_eq_true]
  · have writable : Numeral.isWritable config.indentUnit = true :=
      Bool.not_eq_false _ ▸ fun long => readable ⟨fits, long⟩
    rw [if_neg fits, if_pos writable, if_pos (bne_iff_ne.mpr fits)]

theorem indentation_of_overlong {config : Config} {line : Line} (unit : config.indentUnit ≠ 0)
    (long : line.HasOverlongUnit config) :
    indentation config line = .error (.tooManyDigits none) := by
  rw [indentation, if_neg unit, if_neg long.1, long.2]
  rfl

end Rule

/-! ## The step -/

namespace Check

/-- What is known after a line. -/
def advance (statement : Statement) (state : State) : State :=
  ⟨Rule.registered statement state.table, (Rule.turnBlocks statement state.blocks).1⟩

theorem advance_known (statement : Statement) {state : State} (known : state.blocks.Known) :
    (advance statement state).blocks.Known :=
  Rule.turnBlocks_known known

/-- What all rules find on a line, in order. -/
def findings (config : Config) (line : Line) (state : State) : List Finding :=
  Rule.layoutFindings config line ++ (Rule.wordingFindings line.statement ++
    (Rule.unknownWordFindings line.statement state.table ++
      ((Rule.turnBlocks line.statement state.blocks).2 ++
        Rule.laterFindings config line.statement state.table)))

theorem inspect_of_readable {config : Config} {line : Line} {state : State}
    (unit : config.indentUnit ≠ 0) (known : state.blocks.Known)
    (readable : ¬ line.Overlong config) :
    inspect config line state =
      .ok (advance line.statement state,
        (findings config line state).map (·.on line.number)) := by
  have layout := Rule.indentation_of_readable unit fun long => readable (.inl long)
  have first : Rule.firstWord config line.statement state =
      .ok (Rule.turned line.statement state) := Rule.firstWord_eq known
  simp only [inspect, layout, Rule.sequence_statementRules first fun long => readable (.inr long)]
  rfl

/-- An overlong number stops the rules; the unit of indentation is written before anything on the
line is read. -/
theorem inspect_of_overlong {config : Config} {line : Line} {state : State}
    (unit : config.indentUnit ≠ 0) (known : state.blocks.Known) (long : line.Overlong config) :
    ∃ fault, fault.Overlong config ∧ inspect config line state = .error fault := by
  by_cases layout : line.HasOverlongUnit config
  · refine ⟨.tooManyDigits none, layout.2, ?_⟩
    simp only [inspect, Rule.indentation_of_overlong unit layout]
    rfl
  · have first : Rule.firstWord config line.statement state =
        .ok (Rule.turned line.statement state) := Rule.firstWord_eq known
    obtain ⟨count, many, failed⟩ :=
      Rule.sequence_statementRules_of_overlong first (long.resolve_left layout)
    refine ⟨.tooManyDigits (some count), many, ?_⟩
    simp only [inspect, Rule.indentation_of_readable unit layout, failed]
    rfl

/-- Whatever the blocks are, a line that is passed reports its findings. -/
theorem inspect_eq_ok {config : Config} {line : Line} {state next : State}
    {diagnostics : List Diagnostic} (passed : inspect config line state = .ok (next, diagnostics)) :
    diagnostics = (findings config line state).map (·.on line.number) := by
  by_cases unit : config.indentUnit = 0
  · simp only [inspect, Rule.indentation, unit, ↓reduceIte] at passed
    cases passed
  by_cases layout : line.HasOverlongUnit config
  · simp only [inspect, Rule.indentation_of_overlong unit layout] at passed
    cases passed
  rw [inspect, Rule.indentation_of_readable unit layout] at passed
  rcases Rule.firstWord_eq_or config line.statement state with first | ⟨-, fault, failed⟩
  · by_cases long : line.statement.Overlong
    · obtain ⟨count, -, failed⟩ := Rule.sequence_statementRules_of_overlong first long
      rw [failed] at passed
      cases passed
    · rw [Rule.sequence_statementRules first long] at passed
      cases passed
      rfl
  · simp only [Rule.statementRules, Rule.sequence, Rule.assignmentSign, Rule.nameShape,
      Rule.lineShape, failed, Rule.reporting, bind, Except.bind] at passed
    cases passed

end Check

end PseudoLint
