import PseudoLint.Proofs.Block.ExtraCloser
import PseudoLint.Proofs.Core.Declaration
import PseudoLint.Proofs.Line
import PseudoLint.Proofs.Naming.Trial
import PseudoLint.Proofs.Sweep

/-! # Which names are accepted

The rules on declarations, on constants and on the opening of files recognise their lines by how
they begin, not by their first word. So they take the assignment to a name such as `DECLARED` for
one of their lines and find it malformed. These are the only findings that a trial of a legal name
can have: the table then holds the name, and all other rules and sweeps look at whole words, at
signs or at a first word with a space behind it.
-/

namespace PseudoLint

/-! ## Forms and sweeps that find nothing -/

theorem Text.cut_of_free {separator : Char} {text : Text} (free : separator ∉ text) :
    Text.cut separator text = (text, none) := by
  induction text with
  | nil => rfl
  | cons c rest ih =>
    rw [List.mem_cons, not_or] at free
    simp [cut, Ne.symm free.1, ih free.2]

theorem Form.first?_eq_none {α : Type} {form : Form α} {text : Text}
    (nowhere : ∀ place, place <:+ text → form place = none) : form.first? text = none := by
  induction text with
  | nil => rfl
  | cons c rest ih =>
    rw [first?, nowhere _ (List.suffix_refl _)]
    exact ih fun place inside => nowhere place (inside.trans (List.suffix_cons c rest))

theorem Sweep.endfors_eq_nil_of_firstWord {statements : List Statement}
    (absent : ∀ statement ∈ statements, (statement.firstWord == "FOR".toList) = false) :
    endfors statements = [] := by
  induction statements with
  | nil => rfl
  | cons statement rest ih =>
    rw [endfors_cons, absent statement List.mem_cons_self,
      ih fun other member => absent other (List.mem_cons_of_mem _ member)]
    rfl

namespace TrialLine

variable {name : Text}

/-! ## The table -/

theorem constantTable_eq (legal : LegalName name) (line : TrialLine) (table : SymbolTable) :
    Rule.constantTable (line.statement name) table = table := by
  have equals : '=' ∉ (line.statement name).text := line.not_mem_text legal (by decide) (by decide)
  have none : Rule.declaredConstant? (line.statement name) = none := by
    rw [Rule.declaredConstant?, Form.constantName_needs.first?_eq_none equals]
    rfl
  simp only [Rule.constantTable, none, Option.elim_none, ite_self]

/-- Only the rule on declarations can change the table. -/
theorem registered_eq_declareTable (legal : LegalName name) (line : TrialLine)
    (table : SymbolTable) : Rule.registered (line.statement name) table =
      Rule.declareTable (line.statement name) table := by
  have function : ((line.statement name).firstWord == "FUNCTION".toList) = false :=
    line.firstWord_ne legal (by decide)
  have procedure : ((line.statement name).firstWord == "PROCEDURE".toList) = false :=
    line.firstWord_ne legal (by decide)
  simp only [Rule.registered, Rule.subprogramTable, constantTable_eq legal, function, procedure,
    Bool.false_eq_true, ↓reduceIte]

/-- The first line declares the name with its type. -/
theorem declaredNames?_declares (legal : LegalName name) :
    Rule.declaredNames? (declares.statement name) = some ([name], "INTEGER".toList) := by
  have typed : TypeText.normalize (' ' :: "INTEGER".toList) = "INTEGER".toList :=
    Core.BasicType.normalize_text .integer
  have read := Rule.declaredNames?_of_code legal.isName (declares.code_statement legal)
  rwa [typed] at read

/-- Without a colon nothing is declared. -/
theorem declaredNames?_assigns (legal : LegalName name) :
    Rule.declaredNames? (assigns.statement name) = none := by
  have colon : ':' ∉ (assigns.statement name).code.drop "DECLARE".length := by
    rw [assigns.code_statement legal]
    intro member
    have signs : ':' ∉ ' ' :: assignArrow :: ' ' :: ['1'] := by decide
    rcases List.mem_append.mp (List.mem_of_mem_drop member) with named | behind
    · exact legal.isWord.not_mem (by decide) named
    · exact signs behind
  rw [Rule.declaredNames?, Text.cut_of_free colon]

/-- The first line binds the name if it is new. -/
theorem declareNames_declares (legal : LegalName name) {table : SymbolTable}
    (fresh : table.isDeclared name = false) :
    Rule.declareNames (declares.statement name) table =
      (table.bind ⟨name, "INTEGER", 1, .variable⟩, []) := by
  have absent : table.resolve? name = none := by
    simpa [SymbolTable.isDeclared] using fresh
  simp only [Rule.declareNames, declaredNames?_declares legal, Rule.declareVariables,
    Rule.declareVariable, legal.notReserved, SymbolTable.define, absent, Bool.false_eq_true,
    ↓reduceIte, List.append_nil]
  rfl

theorem registered_declares (legal : LegalName name) {table : SymbolTable}
    (fresh : table.isDeclared name = false) :
    Rule.registered (declares.statement name) table =
      table.bind ⟨name, "INTEGER", 1, .variable⟩ := by
  have begins : Text.startsWith "DECLARE" "DECLARE" = true := by decide
  have starts : (declares.statement name).startsWith "DECLARE" = true :=
    (startsWith_statement name declares (by decide)).trans begins
  simp only [registered_eq_declareTable legal, Rule.declareTable, starts, ↓reduceIte,
    array?_eq_none legal, declareNames_declares legal fresh, Option.map_none, Option.getD_none]

theorem isDeclared_registered_declares (legal : LegalName name) :
    (Rule.registered (declares.statement name) {}).isDeclared name = true := by
  have fresh : ({} : SymbolTable).isDeclared name = false := rfl
  have declares := SymbolTable.declares_nil.bind ⟨name, "INTEGER", 1, .variable⟩
  exact registered_declares legal fresh ▸ (declares name).mpr List.mem_cons_self

theorem prints_not_startsWith_declare (name : Text) :
    (prints.statement name).startsWith "DECLARE" = false := by
  have begins : Text.startsWith "OUTPUT" "DECLARE" = false := by decide
  exact (startsWith_statement name prints (by decide)).trans begins

/-- The other lines leave the table as it is, even where one is taken for a declaration. -/
theorem registered_eq (legal : LegalName name) {line : TrialLine} (other : line ≠ declares)
    (table : SymbolTable) : Rule.registered (line.statement name) table = table := by
  rw [registered_eq_declareTable legal, Rule.declareTable]
  cases line with
  | declares => exact absurd rfl other
  | assigns =>
    simp only [Rule.declareNames, declaredNames?_assigns legal, array?_eq_none legal,
      Option.map_none, Option.getD_none, ite_self]
  | prints =>
    rw [prints_not_startsWith_declare]
    rfl

/-! ## What is found on the lines -/

/-- A fixed first word begins no line of a kind that its letters do not spell. -/
theorem not_startsWith_of_fixed {line : TrialLine} (fixed : line ≠ assigns) {start : Text}
    (free : ' ' ∉ start) (declare : Text.startsWith "DECLARE" start = false)
    (output : Text.startsWith "OUTPUT" start = false) :
    (line.statement name).startsWith start = false := by
  rw [startsWith_statement name line free]
  cases line with
  | declares => exact declare
  | assigns => exact absurd rfl fixed
  | prints => exact output

theorem declarationFormFindings_eq_nil (legal : LegalName name) (line : TrialLine) :
    Rule.declarationFormFindings (line.statement name) = [] := by
  have array : Absent "ARRAY" := absent_of_mem (by decide)
  have noArray : hasWord "ARRAY" (line.statement name).code = false := by
    have word : Core.IsWord "ARRAY" := Core.isWord_of_isName (by decide)
    rw [Bool.eq_false_iff, Ne, hasWord_iff word.nonempty word.inside, line.code_statement legal]
    intro member
    rcases line.wordRuns_cases legal member with same | fixed
    · exact legal.ne_of_isReserved array.1 same.symm
    · exact array.2 fixed
  have noQuote : (line.statement name).text.contains '"' = false := by
    rw [List.contains_eq_mem, decide_eq_false_iff_not]
    exact line.not_mem_text legal (by decide) (by decide)
  simp only [Rule.declarationFormFindings, noArray, noQuote, Rule.whenever, Bool.and_false,
    Bool.false_eq_true, ↓reduceIte, List.append_nil]

theorem declareFindings_declares (legal : LegalName name) {table : SymbolTable}
    (fresh : table.isDeclared name = false) :
    Rule.declareFindings (declares.statement name) table = [] := by
  simp only [Rule.declareFindings, declareNames_declares legal fresh,
    declarationFormFindings_eq_nil legal, List.append_nil, ite_self]

/-- An assignment that begins like a declaration has no colon. -/
theorem declareFindings_assigns (legal : LegalName name) (table : SymbolTable) :
    Rule.declareFindings (assigns.statement name) table =
      Rule.whenever (name.startsWith "DECLARE") .declarationWithoutColon := by
  rw [Rule.declareFindings, startsWith_statement name assigns (by decide)]
  simp only [Rule.declareNames, declaredNames?_assigns legal, declarationFormFindings_eq_nil legal,
    List.append_nil]
  rfl

/-- An assignment that begins like a constant has an arrow and no equals sign. -/
theorem constantFindings_assigns (legal : LegalName name) :
    Rule.constantFindings (assigns.statement name) =
      if name.startsWith "CONSTANT" then [.constantWithoutEquals, .constantWithArrow] else [] := by
  have equals : (assigns.statement name).text.contains '=' = false := by
    rw [List.contains_eq_mem, decide_eq_false_iff_not]
    exact assigns.not_mem_text legal (by decide) (by decide)
  have arrow : (assigns.statement name).hasArrow = true :=
    List.contains_iff_mem.mpr (by simp [statement, text, tail])
  rw [Rule.constantFindings, startsWith_statement name assigns (by decide), equals, arrow]
  rfl

/-- A blank stands only in one of the last places of an assignment. -/
theorem suffix_tail_of_blanks (legal : LegalName name) {place : Text}
    (inside : place <:+ assigns.text name) (blank : (Form.blanks place).isSome = true) :
    place <:+ ' ' :: assignArrow :: ' ' :: ['1'] := by
  obtain ⟨front, split⟩ := inside
  rcases List.append_eq_append_iff.mp split with ⟨letters, whole, behind⟩ | ⟨more, -, behind⟩
  · cases letters with
    | nil => exact ⟨[], behind⟩
    | cons c letters =>
      have member : c ∈ name := by
        have head : name = front ++ c :: letters := whole
        rw [head]
        exact List.mem_append_right _ List.mem_cons_self
      have solid := not_isBlank_of_isWordChar (legal.isWord.inside c member)
      rw [behind, List.cons_append, Form.blanks, solid] at blank
      cases blank
  · exact ⟨more, behind.symm⟩

/-- Behind the name no mode follows. -/
theorem fileMode_eq_none (legal : LegalName name) :
    Form.fileMode.first? (assigns.text name) = none := by
  apply Form.first?_eq_none
  intro place inside
  cases word : Form.anyCase "OPENFILE" place with
  | none => simp only [Form.fileMode, word, bind, Option.bind_none]
  | some rest =>
    simp only [Form.fileMode, word, bind, Option.bind_some]
    by_cases blank : (Form.blanks rest).isSome = true
    · -- Behind the two places with a blank there is no second word but the number.
      have within := (Form.anyCase_suffix word).trans inside
      have ends := suffix_tail_of_blanks legal within blank
      simp only [List.suffix_cons_iff, List.suffix_nil] at ends
      rcases ends with rfl | rfl | rfl | rfl | rfl <;> rfl
    · rw [Option.not_isSome_iff_eq_none.mp blank]
      rfl

/-- An assignment that begins like the opening of a file has no mode. -/
theorem fileFindings_assigns (config : Config) (legal : LegalName name) :
    Rule.fileFindings config (assigns.statement name) =
      Rule.whenever (name.startsWith "OPENFILE" && name.hasInfix "FOR")
        (.openFileShape config.fileModes) := by
  have inside : (assigns.text name).hasInfix "FOR" = name.hasInfix "FOR" := by
    have signs : Text.hasInfix (assignArrow :: ' ' :: ['1']) "FOR" = false := by decide
    rw [text, Text.hasInfix_append_cons (by decide) (by decide), tail, signs, Bool.or_false]
    rfl
  have named : assigns.head name = name := rfl
  rw [Rule.fileFindings, startsWith_statement name assigns (by decide), Rule.openFileFindings,
    statement, fileMode_eq_none legal, inside, named]
  cases begins : name.startsWith "OPENFILE" with
  | true => simp only [↓reduceIte, Bool.true_and]
  | false =>
    simp only [Bool.false_eq_true, ↓reduceIte, Bool.false_and, Rule.whenever]

/-- Only the three rules that go by the beginning of a line can find anything once the name is
declared. -/
theorem laterFindings_eq (config : Config) (legal : LegalName name) (line : TrialLine)
    {table : SymbolTable}
    (declared : (Rule.registered (line.statement name) table).isDeclared name = true) :
    Rule.laterFindings config (line.statement name) table =
      Rule.declareFindings (line.statement name) table ++
        (Rule.constantFindings (line.statement name) ++
          Rule.fileFindings config (line.statement name)) := by
  simp only [Rule.laterFindings, Rule.useFindings, keywordFindings_eq_nil legal,
    subprogramFindings_eq_nil legal, shapeFindings_eq_nil legal, literalFindings_eq_nil legal,
    accesses_eq_nil legal, targetFindings_eq_nil legal line declared,
    usageFindings_eq_nil legal line declared, callFindings_eq_nil legal, List.flatMap_nil,
    List.nil_append]

/-- The lines that begin with a word of their own are taken for what they are. -/
theorem laterFindings_of_fixed (config : Config) (legal : LegalName name) {line : TrialLine}
    (fixed : line ≠ assigns) {table : SymbolTable}
    (declared : (Rule.registered (line.statement name) table).isDeclared name = true)
    (silent : Rule.declareFindings (line.statement name) table = []) :
    Rule.laterFindings config (line.statement name) table = [] := by
  have constant : (line.statement name).startsWith "CONSTANT" = false :=
    not_startsWith_of_fixed fixed (by decide) (by decide) (by decide)
  have openFile : (line.statement name).startsWith "OPENFILE" = false :=
    not_startsWith_of_fixed fixed (by decide) (by decide) (by decide)
  rw [line.laterFindings_eq config legal declared, silent, Rule.constantFindings, constant,
    Rule.fileFindings, openFile]
  rfl

theorem declareFindings_prints (name : Text) (table : SymbolTable) :
    Rule.declareFindings (prints.statement name) table = [] := by
  rw [Rule.declareFindings, prints_not_startsWith_declare]
  rfl

end TrialLine

/-- What is found on the assignment to a name that begins like a line of another kind. -/
def misreadings (config : Config) (name : Text) : List Finding :=
  if name.startsWith "DECLARE" then [.declarationWithoutColon]
  else if name.startsWith "CONSTANT" then [.constantWithoutEquals, .constantWithArrow]
  else if name.startsWith "OPENFILE" && name.hasInfix "FOR" then [.openFileShape config.fileModes]
  else []

/-- A text begins with two others only if one of them begins with the other. -/
theorem Text.not_startsWith_of_startsWith {text first second : Text}
    (begins : text.startsWith first = true) (forth : first.isPrefixOf second = false)
    (back : second.isPrefixOf first = false) : text.startsWith second = false := by
  rw [Bool.eq_false_iff]
  intro other
  rcases List.prefix_or_prefix_of_prefix (List.isPrefixOf_iff_prefix.mp begins)
    (List.isPrefixOf_iff_prefix.mp other) with longer | shorter
  · rw [List.isPrefixOf_iff_prefix.mpr longer] at forth
    cases forth
  · rw [List.isPrefixOf_iff_prefix.mpr shorter] at back
    cases back

namespace TrialLine

variable {name : Text}

theorem laterFindings_assigns (config : Config) (legal : LegalName name) {table : SymbolTable}
    (declared : table.isDeclared name = true) :
    Rule.laterFindings config (assigns.statement name) table = misreadings config name := by
  have after : (Rule.registered (assigns.statement name) table).isDeclared name = true := by
    rwa [registered_eq legal (by decide)]
  rw [assigns.laterFindings_eq config legal after, declareFindings_assigns legal,
    constantFindings_assigns legal, fileFindings_assigns config legal, misreadings]
  by_cases declare : name.startsWith "DECLARE" = true
  · have constant : name.startsWith "CONSTANT" = false :=
      Text.not_startsWith_of_startsWith declare (by decide) (by decide)
    have openFile : name.startsWith "OPENFILE" = false :=
      Text.not_startsWith_of_startsWith declare (by decide) (by decide)
    simp only [declare, constant, openFile, Rule.whenever, ↓reduceIte, Bool.false_eq_true,
      Bool.false_and, List.append_nil]
  by_cases constant : name.startsWith "CONSTANT" = true
  · have openFile : name.startsWith "OPENFILE" = false :=
      Text.not_startsWith_of_startsWith constant (by decide) (by decide)
    simp only [declare, constant, openFile, Rule.whenever, ↓reduceIte, Bool.false_eq_true,
      Bool.false_and, List.append_nil, List.nil_append]
  simp only [declare, constant, Rule.whenever, ↓reduceIte, Bool.false_eq_true, List.nil_append]

/-! ## The three lines -/

/-- A line of a trial in its place. -/
def line (name : Text) (trialLine : TrialLine) : Line :=
  ⟨trialLine.number, trialLine.text name⟩

theorem statement_line (legal : LegalName name) (trialLine : TrialLine) :
    (trialLine.line name).statement = trialLine.statement name := by
  rw [Line.statement, line, (trialLine.solid_text legal).trim_eq]
  rfl

theorem layoutFindings_eq_nil (config : Config) (legal : LegalName name) (trialLine : TrialLine) :
    Rule.layoutFindings config (trialLine.line name) = [] :=
  Rule.layoutFindings_of_flush config (Line.indent_eq_zero (trialLine.solid_text legal).begins)

/-- On a line of a trial nothing is found before the rules on declarations. -/
theorem findings_line (config : Config) (legal : LegalName name) (trialLine : TrialLine)
    (state : State) : Check.findings config (trialLine.line name) state =
      Rule.laterFindings config (trialLine.statement name) state.table := by
  simp only [Check.findings, layoutFindings_eq_nil config legal, statement_line legal,
    wordingFindings_eq_nil legal, unknownWordFindings_eq_nil legal, turnBlocks_eq legal,
    List.nil_append]

theorem advance_line (legal : LegalName name) (trialLine : TrialLine) (state : State) :
    Check.advance (trialLine.line name).statement state =
      ⟨Rule.registered (trialLine.statement name) state.table, state.blocks⟩ := by
  simp only [Check.advance, statement_line legal, turnBlocks_eq legal]

theorem isContent_line (legal : LegalName name) (trialLine : TrialLine) :
    (trialLine.line name).isContent = true := by
  obtain ⟨c, rest, split, inWord⟩ := (trialLine.isWord_head legal).exists_cons
  have begins : trialLine.text name = c :: (rest ++ ' ' :: trialLine.tail name) := by
    rw [text, split, List.cons_append]
  have notSlash : ('/' == c) = false := by
    refine beq_false_of_ne ?_
    rintro rfl
    exact absurd inWord (by decide)
  rw [Line.isContent, statement_line legal]
  simp [statement, Statement.isContent, Statement.isBlank, Statement.isComment, begins,
    Text.startsWith, List.isPrefixOf, notSlash]

end TrialLine

/-- A program that declares a name as an integer, assigns one to it and prints it. -/
def trial (name : Text) : Text :=
  Text.join ['\n'] [TrialLine.declares.text name, TrialLine.assigns.text name,
    TrialLine.prints.text name]

/-- The lines of a trial. -/
def trialLines (name : Text) : List Line :=
  [TrialLine.declares.line name, TrialLine.assigns.line name, TrialLine.prints.line name]

section Trial

variable {name : Text}

theorem exists_trialLine {line : Line} (member : line ∈ trialLines name) :
    ∃ trialLine : TrialLine, line = trialLine.line name := by
  simp only [trialLines, List.mem_cons, List.not_mem_nil, or_false] at member
  rcases member with rfl | rfl | rfl
  · exact ⟨.declares, rfl⟩
  · exact ⟨.assigns, rfl⟩
  · exact ⟨.prints, rfl⟩

theorem ofSource_trial (legal : LegalName name) : Line.ofSource (trial name) = trialLines name := by
  have raws : trial name = Text.join ['\n'] ((trialLines name).map Line.raw) := rfl
  have nonempty : (trialLines name).map Line.raw ≠ [] := List.cons_ne_nil _ _
  rw [raws, Line.ofSource_join nonempty]
  · rfl
  · intro raw member
    obtain ⟨line, present, rfl⟩ := List.mem_map.mp member
    obtain ⟨trialLine, rfl⟩ := exists_trialLine present
    exact trialLine.not_mem_text legal (by decide) (by decide)

theorem contentOf_trial (legal : LegalName name) :
    Line.contentOf (trial name) = trialLines name := by
  rw [Line.contentOf, ofSource_trial legal, List.filter_eq_self]
  intro line member
  obtain ⟨trialLine, rfl⟩ := exists_trialLine member
  exact trialLine.isContent_line legal

theorem readable_trial (config : Config) (legal : LegalName name) :
    ∀ line ∈ Line.contentOf (trial name), ¬ line.Overlong config := by
  intro line member
  rw [contentOf_trial legal] at member
  obtain ⟨trialLine, rfl⟩ := exists_trialLine member
  rw [Line.overlong_iff_of_layout (trialLine.layoutFindings_eq_nil config legal),
    trialLine.statement_line legal]
  exact trialLine.not_overlong legal

/-- Once the name is declared, only its assignment can be misread. -/
theorem reports_behind_declaration (config : Config) (legal : LegalName name) {table : SymbolTable}
    (declared : table.isDeclared name = true) (blocks : BlockStack) :
    Check.reports config [TrialLine.assigns.line name, TrialLine.prints.line name] ⟨table, blocks⟩ =
      (misreadings config name).map (2, ·) := by
  have assigned : Rule.registered (TrialLine.assigns.statement name) table = table :=
    TrialLine.registered_eq legal (by decide) _
  have printed : Rule.registered (TrialLine.prints.statement name) table = table :=
    TrialLine.registered_eq legal (by decide) _
  have printing : Rule.laterFindings config (TrialLine.prints.statement name) table = [] :=
    TrialLine.laterFindings_of_fixed config legal (by decide) (by rw [printed, declared])
      (TrialLine.declareFindings_prints name _)
  simp only [Check.reports, TrialLine.findings_line config legal, TrialLine.advance_line legal,
    assigned, printing, TrialLine.laterFindings_assigns config legal declared, List.map_nil,
    List.append_nil]
  rfl

/-- Everything that is reported on a trial is reported on its second line. -/
theorem reports_trial (config : Config) (legal : LegalName name) :
    Check.reports config (trialLines name) {} = (misreadings config name).map (2, ·) := by
  have fresh : ({} : SymbolTable).isDeclared name = false := rfl
  have bound := TrialLine.isDeclared_registered_declares legal
  have declaring : Rule.laterFindings config (TrialLine.declares.statement name) {} = [] :=
    TrialLine.laterFindings_of_fixed config legal (by decide) bound
      (TrialLine.declareFindings_declares legal fresh)
  rw [trialLines, Check.reports, TrialLine.findings_line config legal, declaring,
    TrialLine.advance_line legal, reports_behind_declaration config legal bound []]
  rfl

theorem blocks_trial (legal : LegalName name) : (Check.after (trialLines name) {}).blocks = [] := by
  simp only [trialLines, Check.after_cons, Check.after_nil, TrialLine.advance_line legal]

theorem extraClosers_trial (legal : LegalName name) :
    Sweep.extraClosers ((trialLines name).map Line.statement) = [] := by
  apply Sweep.extraClosers_eq_nil
  · intro line member family _ opens
    obtain ⟨trialLine, rfl⟩ := exists_trialLine member
    rw [trialLine.statement_line legal, trialLine.firstWord_statement legal] at opens
    rw [trialLine.statement_line legal, ← opens]
    apply List.isPrefixOf_iff_prefix.mpr
    exact ⟨trialLine.tail name, List.append_assoc ..⟩
  · have none : Nesting.blockWords ((trialLines name).filter Line.isContent) = [] := by
      rw [Nesting.blockWords, List.filter_eq_nil_iff]
      intro word member
      obtain ⟨line, present, rfl⟩ := List.mem_map.mp member
      obtain ⟨trialLine, rfl⟩ := exists_trialLine (List.mem_filter.mp present).1
      rw [trialLine.statement_line legal, trialLine.firstWord_statement legal]
      exact Bool.eq_false_iff.mp (trialLine.not_isBlockWord_head legal)
    rw [none]
    exact .nil

/-- No sweep finds anything in a trial. -/
theorem sweeps_trial (legal : LegalName name) (table : SymbolTable) :
    Sweep.all table ((trialLines name).map Line.statement) = [] := by
  have carried : ∀ statement ∈ (trialLines name).map Line.statement,
      ∃ trialLine : TrialLine, statement = trialLine.statement name := by
    intro statement member
    obtain ⟨line, present, rfl⟩ := List.mem_map.mp member
    obtain ⟨trialLine, rfl⟩ := exists_trialLine present
    exact ⟨trialLine, trialLine.statement_line legal⟩
  have notFor : ∀ statement ∈ (trialLines name).map Line.statement,
      statement.firstWord ≠ "FOR".toList := by
    intro statement member
    obtain ⟨trialLine, rfl⟩ := carried statement member
    rw [trialLine.firstWord_statement legal]
    exact trialLine.head_ne legal (TrialLine.absent_of_mem (by decide))
  have endings : Sweep.endfors ((trialLines name).map Line.statement) = [] :=
    Sweep.endfors_eq_nil_of_firstWord fun statement member =>
      beq_false_of_ne (notFor statement member)
  have lengths : Sweep.lengths table ((trialLines name).map Line.statement) = [] := by
    apply Sweep.lengths_eq_nil
    intro statement member
    obtain ⟨trialLine, rfl⟩ := carried statement member
    rw [trialLine.code_statement legal]
    exact trialLine.not_mem_text legal (by decide) (by decide)
  have bodies : Sweep.emptyFors ((trialLines name).map Line.statement) = [] := by
    apply Sweep.emptyFors_eq_nil
    · intro statement member
      obtain ⟨line, present, rfl⟩ := List.mem_map.mp member
      obtain ⟨trialLine, rfl⟩ := exists_trialLine present
      exact trialLine.isContent_line legal
    · intro statement member header
      obtain ⟨trialLine, rfl⟩ := carried statement member
      have spelled : "FOR ".toList = "FOR".toList ++ ' ' :: [] := by decide
      have starts := (Bool.and_eq_true_iff.mp header).1
      rw [spelled] at starts
      rw [trialLine.firstWord_statement legal]
      exact TrialLine.head_eq_of_startsWith legal (by decide) starts
    · exact ⟨fun same => absurd same (notFor _ List.mem_cons_self),
        fun same => absurd same (notFor _ (List.mem_cons_of_mem _ List.mem_cons_self)), trivial⟩
  rw [Sweep.all, extraClosers_trial legal, endings, lengths, bodies]
  rfl

/-! ## The verdict -/

theorem misreadings_eq_nil_iff (config : Config) : misreadings config name = [] ↔
    name.startsWith "DECLARE" = false ∧ name.startsWith "CONSTANT" = false ∧
      (name.startsWith "OPENFILE" && name.hasInfix "FOR") = false := by
  unfold misreadings
  cases name.startsWith "DECLARE" <;> cases name.startsWith "CONSTANT" <;>
    cases name.startsWith "OPENFILE" && name.hasInfix "FOR" <;> simp

theorem dedup_misreadings (config : Config) (name : Text) :
    Diagnostic.dedup ((misreadings config name).map (·.on 2)) =
      (misreadings config name).map (·.on 2) := by
  unfold misreadings
  split
  · rfl
  split
  · decide +kernel
  split
  · rfl
  · rfl

theorem emitted_trial (config : Config) (legal : LegalName name) :
    (Check.outcome config (trial name)).emitted = (misreadings config name).map (·.on 2) := by
  have first : TrialLine.declares.line name ∈ Line.contentOf (trial name) := by
    rw [contentOf_trial legal]
    exact List.mem_cons_self
  rw [Check.emitted_outcome (Line.anyContent_of_mem first), contentOf_trial legal,
    ofSource_trial legal, reports_trial config legal, blocks_trial legal, sweeps_trial legal,
    List.map_map, List.append_nil]
  exact List.append_nil _

/-- The trial of a legal name is accepted without a diagnostic exactly if the assignment does not
begin like a declaration, like a constant or, with `FOR` inside the name, like the opening of a
file. What is found otherwise is found on the assignment. -/
theorem trial_of_legal_name {config : Config} (unit : config.indentUnit ≠ 0)
    (legal : LegalName name) :
    ∃ check, Check.run config (trial name) = .ok check ∧
      check.diagnostics = (misreadings config name).map (·.on 2) ∧
      (check.isValid = true ∧ check.diagnostics = [] ↔
        name.startsWith "DECLARE" = false ∧ name.startsWith "CONSTANT" = false ∧
          (name.startsWith "OPENFILE" && name.hasInfix "FOR") = false) := by
  have diagnostics : (Check.outcome config (trial name)).diagnostics =
      (misreadings config name).map (·.on 2) := by
    rw [Check.diagnostics, emitted_trial config legal, dedup_misreadings]
  refine ⟨_, Check.run_of_readable unit (readable_trial config legal), diagnostics, ?_⟩
  rw [← misreadings_eq_nil_iff config, Check.isValid, diagnostics, List.map_eq_nil_iff]
  constructor
  · exact fun accepted => accepted.2
  · intro nothing
    rw [nothing]
    exact ⟨rfl, rfl⟩

end Trial

/-- A name that begins like the end of a loop is accepted; one that begins like a constant is taken
for one. -/
theorem trials_of_form_and_constants :
    (∃ check, Check.run {} "DECLARE ENDFORM : INTEGER\nENDFORM ← 1\nOUTPUT ENDFORM" = .ok check ∧
      check.isValid = true ∧ check.diagnostics = []) ∧
    ∃ check, Check.run {} "DECLARE CONSTANTS : INTEGER\nCONSTANTS ← 1\nOUTPUT CONSTANTS" =
        .ok check ∧
      check.diagnostics = [Finding.constantWithoutEquals.on 2, Finding.constantWithArrow.on 2] := by
  have letters : (isStrictName "ENDFORM" = true ∧ Keyword.isReserved "ENDFORM" = false ∧
        Keyword.isForeign "ENDFORM" = false) ∧
      (isStrictName "CONSTANTS" = true ∧ Keyword.isReserved "CONSTANTS" = false ∧
        Keyword.isForeign "CONSTANTS" = false) ∧
      trial "ENDFORM" = "DECLARE ENDFORM : INTEGER\nENDFORM ← 1\nOUTPUT ENDFORM" ∧
      trial "CONSTANTS" = "DECLARE CONSTANTS : INTEGER\nCONSTANTS ← 1\nOUTPUT CONSTANTS" := by
    decide +kernel
  obtain ⟨⟨strict, known, foreign⟩, ⟨strict', known', foreign'⟩, form, constants⟩ := letters
  have unit : ({} : Config).indentUnit ≠ 0 := by decide
  rw [← form, ← constants]
  constructor
  · obtain ⟨check, ran, -, verdict⟩ := trial_of_legal_name unit ⟨strict, known, foreign⟩
    exact ⟨check, ran, verdict.mpr ⟨by decide, by decide, by decide⟩⟩
  · obtain ⟨check, ran, found, -⟩ := trial_of_legal_name unit ⟨strict', known', foreign'⟩
    exact ⟨check, ran, found⟩

/-- The assignment to a legal name that begins like a declaration is refused for its lack of a
colon. -/
theorem legal_name_misread_as_declaration :
    LegalName "DECLARED" ∧
    ∃ check, Check.run {} "DECLARE DECLARED : INTEGER\nDECLARED ← 1\nOUTPUT DECLARED" = .ok check ∧
      check.isValid = false ∧ check.diagnostics = [Finding.declarationWithoutColon.on 2] := by
  have facts : (isStrictName "DECLARED" = true ∧ Keyword.isReserved "DECLARED" = false ∧
        Keyword.isForeign "DECLARED" = false) ∧
      (Check.run {} "DECLARE DECLARED : INTEGER\nDECLARED ← 1\nOUTPUT DECLARED").isOk = true ∧
      (Check.outcome {} "DECLARE DECLARED : INTEGER\nDECLARED ← 1\nOUTPUT DECLARED").isValid =
        false ∧
      (Check.outcome {} "DECLARE DECLARED : INTEGER\nDECLARED ← 1\nOUTPUT DECLARED").diagnostics =
        [Finding.declarationWithoutColon.on 2] := by
    decide +kernel
  obtain ⟨⟨strict, known, foreign⟩, succeeds, refused, found⟩ := facts
  exact ⟨⟨strict, known, foreign⟩, _, Check.run_of_isOk {} _ succeeds, refused, found⟩

end PseudoLint
