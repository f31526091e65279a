import PseudoLint.Proofs.Check.Verdict

/-! # Statements that are read alike

The rules and the sweeps read a statement in a fixed number of ways. Two statements agree for some
codes if they are read alike in every way on which a finding with one of these codes depends, or on
which the symbol table depends. Two sources whose lines agree, one by one, then have the same
symbols and the same diagnostics with these codes, in the same order
(`filter_diagnostics_of_agree`).
-/

namespace PseudoLint

/-- The words and phrases that are looked for at the start of a statement whatever stands behind
it. -/
def heads : List Text :=
  ["DECLARE", "CONSTANT", "CASE OF", "OPENFILE", "ENDFOR"]

/-- Two statements that are read alike as far as the symbol table and findings with the selected
codes depend on it. -/
structure Agree (selected : Text → Bool) (left right : Statement) : Prop where
  line : left.line = right.line
  content : left.isContent = right.isContent
  code : left.code = right.code
  starts : ∀ word ∈ heads, left.startsWith word = right.startsWith word
  target : Form.assignedName left.text = Form.assignedName right.text
  charLiterals : charLiterals left.text = PseudoLint.charLiterals right.text
  constantName : left.startsWith "CONSTANT" = true →
    Form.constantName.first? left.text = Form.constantName.first? right.text
  equals : left.startsWith "CONSTANT" = true →
    left.text.contains '=' = right.text.contains '='
  subprogram : ∀ table, Rule.subprogramTable left table = Rule.subprogramTable right table
  strings : selected "E041" = true ∨ selected "E045" = true →
    left.hasUnclosedString = right.hasUnclosedString
  assignedString : selected "E044" = true →
    Form.stringAssignment.first? left.text = Form.stringAssignment.first? right.text
  charDeclaration : selected "E044" = true → left.startsWith "DECLARE" = true →
    ((Form.charDeclaration.first? left.text).isSome && left.text.contains '"') =
      ((Form.charDeclaration.first? right.text).isSome && right.text.contains '"')
  arrow : selected "E010" = true ∨ selected "E032" = true ∨ selected "E033" = true →
    left.hasArrow = right.hasArrow
  recognized : selected "E012" = true → Rule.isRecognized left = Rule.isRecognized right
  unknownWord : selected "E013" = true → ∀ table,
    Rule.unknownWordFindings left table = Rule.unknownWordFindings right table
  firstWord : selected "E020" = true ∨ selected "E032" = true ∨ selected "E033" = true ∨
      selected "W050" = true →
    ∀ word, isAllCapitals word = true → (left.firstWord == word) = (right.firstWord == word)
  families : selected "E020" = true → ∀ family ∈ Sweep.families,
    left.startsWith family.2 = right.startsWith family.2 ∧
      (left.text == family.1) = (right.text == family.1)
  call : selected "E042" = true → ∀ table,
    Rule.callFindings left table = Rule.callFindings right table
  file : selected "E043" = true → ∀ config,
    Rule.fileFindings config left = Rule.fileFindings config right
  forHeader : selected "W050" = true → Sweep.isForHeader left = Sweep.isForHeader right

theorem Agree.refl (selected : Text → Bool) (statement : Statement) :
    Agree selected statement statement := by
  constructor <;> intros <;> first | rfl | exact ⟨rfl, rfl⟩

namespace Agree

variable {selected : Text → Bool} {left right : Statement}

/-! ## The state -/

theorem declareTable_eq (agree : Agree selected left right) (table : SymbolTable) :
    Rule.declareTable left table = Rule.declareTable right table := by
  have array : left.array? = right.array? := by
    simp only [Statement.array?, agree.code, agree.line]
  have names : Rule.declareNames left table = Rule.declareNames right table := by
    simp only [Rule.declareNames, Rule.declaredNames?, agree.code, agree.line]
  simp only [Rule.declareTable, agree.starts "DECLARE" (by simp [heads]), array, names]

theorem constantTable_eq (agree : Agree selected left right) (table : SymbolTable) :
    Rule.constantTable left table = Rule.constantTable right table := by
  have starts := agree.starts "CONSTANT" (by simp [heads])
  cases declares : left.startsWith "CONSTANT" with
  | true =>
    simp only [Rule.constantTable, Rule.declaredConstant?, ← starts, declares, ↓reduceIte,
      agree.constantName declares, agree.line]
  | false =>
    simp only [Rule.constantTable, ← starts, declares, Bool.false_eq_true, ↓reduceIte]

/-- Statements that agree leave the same table. -/
theorem registered_eq (agree : Agree selected left right) (table : SymbolTable) :
    Rule.registered left table = Rule.registered right table := by
  rw [Rule.registered, Rule.registered, agree.declareTable_eq, agree.constantTable_eq,
    agree.subprogram]

/-- First words that are equal or not in capitals move the blocks alike. -/
theorem turnBlocks_eq (agree : Agree selected left right) (nesting : selected "E020" = true)
    (blocks : BlockStack) : Rule.turnBlocks left blocks = Rule.turnBlocks right blocks := by
  have words := agree.firstWord (.inl nesting)
  by_cases same : left.firstWord = right.firstWord
  · simp only [Rule.turnBlocks, same, agree.line]
  · have leftLower : isAllCapitals left.firstWord = false := by
      rw [Bool.eq_false_iff]
      intro capitals
      have equal := words _ capitals
      rw [beq_self_eq_true] at equal
      exact same (beq_iff_eq.mp equal.symm).symm
    have rightLower : isAllCapitals right.firstWord = false := by
      rw [Bool.eq_false_iff]
      intro capitals
      have equal := words _ capitals
      rw [beq_self_eq_true] at equal
      exact same (beq_iff_eq.mp equal)
    rw [Rule.turnBlocks_of_not_capitals leftLower, Rule.turnBlocks_of_not_capitals rightLower]

end Agree

/-- States that later lines do not tell apart: the same table and, if findings on nesting are
selected, the same blocks. -/
structure State.Alike (selected : Text → Bool) (left right : State) : Prop where
  table : left.table = right.table
  blocks : selected "E020" = true → left.blocks = right.blocks

/-- Items with one code count only if it is selected. -/
theorem filter_congr_of_code {α : Type} {selected : Text → Bool} {read : α → Text}
    {first second : List α} {code : Text} (firstOnly : ∀ item ∈ first, read item = code)
    (secondOnly : ∀ item ∈ second, read item = code)
    (same : selected code = true → first = second) :
    first.filter (selected <| read ·) = second.filter (selected <| read ·) := by
  cases chosen : selected code with
  | true => rw [same chosen]
  | false =>
    have nothing : ∀ items : List α, (∀ item ∈ items, read item = code) →
        items.filter (selected <| read ·) = [] := by
      intro items only
      refine List.filter_eq_nil_iff.mpr fun item member => ?_
      rw [only item member, chosen]
      exact Bool.false_ne_true
    rw [nothing first firstOnly, nothing second secondOnly]

/-! ## Findings on a line -/

/-- The findings with selected codes. -/
def kept (selected : Text → Bool) (findings : List Finding) : List Finding :=
  findings.filter (selected ·.code)

@[simp] theorem kept_append (selected : Text → Bool) (first second : List Finding) :
    kept selected (first ++ second) = kept selected first ++ kept selected second :=
  List.filter_append first second

/-- A condition counts only if the finding is selected. -/
theorem kept_whenever_congr {selected : Text → Bool} {first second : Bool} {finding : Finding}
    (same : selected finding.code = true → first = second) :
    kept selected (Rule.whenever first finding) = kept selected (Rule.whenever second finding) :=
  filter_congr_of_code (Rule.forall_mem_whenever rfl) (Rule.forall_mem_whenever rfl)
    fun chosen => by rw [same chosen]

/-- The code of the findings on a topic, if they share one. -/
def Finding.Topic.code? : Topic → Option Text
  | .unknownWord => some "E013"
  | .nesting => some "E020"
  | .subprogram => some "E032"
  | .shape => some "E033"
  | .undeclared => some "E041"
  | .call => some "E042"
  | .file => some "E043"
  | _ => none

theorem Finding.About.code_of_topic {finding : Finding} {topic : Topic} {code : Text}
    (about : finding.About topic) (shared : topic.code? = some code) : finding.code = code := by
  obtain ⟨-, rfl⟩ := about
  cases finding <;> cases shared <;> rfl

/-- Findings on a topic with one code count only if it is selected. -/
theorem kept_congr_of_topic {selected : Text → Bool} {first second : List Finding}
    {topic : Finding.Topic} {code : Text} (shared : topic.code? = some code)
    (firstAbout : ∀ finding ∈ first, finding.About topic)
    (secondAbout : ∀ finding ∈ second, finding.About topic)
    (same : selected code = true → first = second) : kept selected first = kept selected second :=
  filter_congr_of_code (fun finding member => (firstAbout finding member).code_of_topic shared)
    (fun finding member => (secondAbout finding member).code_of_topic shared) same

namespace Agree

variable {selected : Text → Bool} {left right : Statement}

theorem kept_wordingFindings (agree : Agree selected left right) :
    kept selected (Rule.wordingFindings left) = kept selected (Rule.wordingFindings right) := by
  have constant := agree.starts "CONSTANT" (by simp [heads])
  have assigns : kept selected (Rule.whenever (Rule.assignsByEquals left) .equalsAssignment) =
      kept selected (Rule.whenever (Rule.assignsByEquals right) .equalsAssignment) := by
    refine kept_whenever_congr fun chosen => ?_
    simp only [Rule.assignsByEquals, constant, agree.arrow (.inl chosen), agree.code]
  have recognizes : kept selected (Rule.whenever (!Rule.isRecognized left) .unrecognizedLine) =
      kept selected (Rule.whenever (!Rule.isRecognized right) .unrecognizedLine) :=
    kept_whenever_congr fun chosen => by rw [agree.recognized chosen]
  simp only [Rule.wordingFindings, kept_append, assigns, recognizes, agree.code]

theorem kept_unknownWordFindings (agree : Agree selected left right) (table : SymbolTable) :
    kept selected (Rule.unknownWordFindings left table) =
      kept selected (Rule.unknownWordFindings right table) :=
  kept_congr_of_topic rfl Rule.about_of_mem_unknownWordFindings
    Rule.about_of_mem_unknownWordFindings fun chosen => agree.unknownWord chosen table

theorem kept_turnBlocks (agree : Agree selected left right) {first second : BlockStack}
    (same : selected "E020" = true → first = second) :
    kept selected (Rule.turnBlocks left first).2 =
      kept selected (Rule.turnBlocks right second).2 := by
  have about : ∀ statement blocks, ∀ finding ∈ (Rule.turnBlocks statement blocks).2,
      finding.About .nesting := by
    intro statement blocks finding member
    have nesting := Rule.isNesting_of_mem_turnBlocks finding member
    exact ⟨Finding.wellQuoted_of_isNesting nesting, Finding.isNesting_iff.mp nesting⟩
  refine kept_congr_of_topic rfl (about left first) (about right second) fun chosen => ?_
  rw [same chosen, agree.turnBlocks_eq chosen]

theorem keywordFindings_eq (agree : Agree selected left right) :
    Rule.keywordFindings left = Rule.keywordFindings right := by
  simp only [Rule.keywordFindings, Statement.names, agree.code]

theorem kept_declareFindings (agree : Agree selected left right) (table : SymbolTable) :
    kept selected (Rule.declareFindings left table) =
      kept selected (Rule.declareFindings right table) := by
  have starts := agree.starts "DECLARE" (by simp [heads])
  have names : Rule.declareNames left table = Rule.declareNames right table := by
    simp only [Rule.declareNames, Rule.declaredNames?, agree.code, agree.line]
  cases declares : left.startsWith "DECLARE" with
  | false =>
    simp only [Rule.declareFindings, ← starts, declares, Bool.false_eq_true, ↓reduceIte]
  | true =>
    have chars := kept_whenever_congr (show selected Finding.charDeclaredWithString.code = true → _
      from fun chosen => agree.charDeclaration chosen declares)
    simp only [Rule.declareFindings, ← starts, declares, ↓reduceIte, names,
      Rule.declarationFormFindings, agree.code, kept_append, chars]

theorem kept_constantFindings (agree : Agree selected left right) :
    kept selected (Rule.constantFindings left) = kept selected (Rule.constantFindings right) := by
  have starts := agree.starts "CONSTANT" (by simp [heads])
  cases declares : left.startsWith "CONSTANT" with
  | false =>
    simp only [Rule.constantFindings, ← starts, declares, Bool.false_eq_true, ↓reduceIte]
  | true =>
    have arrows := kept_whenever_congr (show selected Finding.constantWithArrow.code = true → _
      from fun chosen => agree.arrow (.inr (.inl chosen)))
    simp only [Rule.constantFindings, ← starts, declares, ↓reduceIte, agree.equals declares,
      kept_append, arrows]

theorem kept_subprogramFindings (agree : Agree selected left right) :
    kept selected (Rule.subprogramFindings left) =
      kept selected (Rule.subprogramFindings right) := by
  refine kept_congr_of_topic rfl Rule.about_of_mem_subprogramFindings
    Rule.about_of_mem_subprogramFindings fun chosen => ?_
  have function := agree.firstWord (.inr (.inl chosen)) "FUNCTION" (by decide)
  simp only [Rule.subprogramFindings, function, Rule.returnType?, agree.code]

theorem kept_shapeFindings (agree : Agree selected left right) :
    kept selected (Rule.shapeFindings left) = kept selected (Rule.shapeFindings right) := by
  refine kept_congr_of_topic rfl Rule.about_of_mem_shapeFindings Rule.about_of_mem_shapeFindings
    fun chosen => ?_
  have words := agree.firstWord (.inr (.inr (.inl chosen)))
  simp only [Rule.shapeFindings, words "FOR" (by decide), words "WHILE" (by decide),
    agree.arrow (.inr (.inr chosen)), agree.starts "CASE OF" (by simp [heads]), agree.code]

theorem kept_literalFindings (agree : Agree selected left right) (table : SymbolTable) :
    kept selected (Rule.literalFindings left table) =
      kept selected (Rule.literalFindings right table) := by
  have unclosed : kept selected (Rule.whenever left.hasUnclosedString .unclosedString) =
      kept selected (Rule.whenever right.hasUnclosedString .unclosedString) :=
    kept_whenever_congr fun chosen => agree.strings (.inr chosen)
  have codes : ∀ statement, ∀ finding ∈ Rule.stringAssignmentFindings statement table,
      finding.code = "E044" := by
    intro statement
    unfold Rule.stringAssignmentFindings
    split
    · split
      · exact Rule.forall_mem_whenever rfl
      · exact List.forall_mem_nil _
    · exact List.forall_mem_nil _
  have assigned : kept selected (Rule.stringAssignmentFindings left table) =
      kept selected (Rule.stringAssignmentFindings right table) := by
    refine filter_congr_of_code (codes left) (codes right) fun chosen => ?_
    simp only [Rule.stringAssignmentFindings, agree.assignedString chosen]
  simp only [Rule.literalFindings, kept_append, unclosed, assigned, agree.charLiterals]

theorem kept_usageFindings (agree : Agree selected left right) (table : SymbolTable) :
    kept selected (Rule.usageFindings left table) =
      kept selected (Rule.usageFindings right table) := by
  refine kept_congr_of_topic rfl Rule.about_of_mem_usageFindings Rule.about_of_mem_usageFindings
    fun chosen => ?_
  have reads : Rule.readsVariables left = Rule.readsVariables right := by
    simp only [Rule.readsVariables, agree.strings (.inl chosen), agree.code]
  simp only [Rule.usageFindings, reads, agree.code]

theorem targetFindings_eq (agree : Agree selected left right) (table : SymbolTable) :
    Rule.targetFindings left table = Rule.targetFindings right table := by
  simp only [Rule.targetFindings, agree.target]

theorem kept_callFindings (agree : Agree selected left right) (table : SymbolTable) :
    kept selected (Rule.callFindings left table) =
      kept selected (Rule.callFindings right table) :=
  kept_congr_of_topic rfl Rule.about_of_mem_callFindings Rule.about_of_mem_callFindings
    fun chosen => agree.call chosen table

theorem kept_fileFindings (agree : Agree selected left right) (config : Config) :
    kept selected (Rule.fileFindings config left) =
      kept selected (Rule.fileFindings config right) :=
  kept_congr_of_topic rfl Rule.about_of_mem_fileFindings Rule.about_of_mem_fileFindings
    fun chosen => agree.file chosen config

end Agree

/-! ## The line pass -/

/-- Lines with the same indentation whose statements agree. -/
structure LinesAgree (selected : Text → Bool) (left right : Line) : Prop where
  indent : left.indent = right.indent
  statement : Agree selected left.statement right.statement

theorem LinesAgree.refl (selected : Text → Bool) (line : Line) : LinesAgree selected line line :=
  ⟨rfl, .refl selected line.statement⟩

namespace Check

variable {selected : Text → Bool}

theorem kept_findings_of_agree (config : Config) {left right : Line} {first second : State}
    (agree : LinesAgree selected left right) (alike : first.Alike selected second) :
    kept selected (findings config left first) = kept selected (findings config right second) := by
  have statements := agree.statement
  have layout : Rule.layoutFindings config left = Rule.layoutFindings config right := by
    rw [Rule.layoutFindings, Rule.layoutFindings, agree.indent]
  have accesses : left.statement.accesses = right.statement.accesses := by
    simp only [Statement.accesses, statements.code]
  simp only [findings, Rule.laterFindings, Rule.useFindings, kept_append, layout, alike.table,
    statements.kept_wordingFindings, statements.kept_unknownWordFindings,
    statements.kept_turnBlocks alike.blocks, statements.keywordFindings_eq,
    statements.kept_declareFindings, statements.kept_constantFindings,
    statements.kept_subprogramFindings, statements.kept_shapeFindings, statements.registered_eq,
    statements.kept_literalFindings, accesses, statements.targetFindings_eq,
    statements.kept_usageFindings, statements.kept_callFindings, statements.kept_fileFindings]

theorem alike_advance {left right : Statement} {first second : State}
    (agree : Agree selected left right) (alike : first.Alike selected second) :
    (advance left first).Alike selected (advance right second) where
  table := by rw [advance, advance, alike.table, agree.registered_eq]
  blocks chosen := by rw [advance, advance, alike.blocks chosen, agree.turnBlocks_eq chosen]

theorem alike_after {pairs : List (Line × Line)} {first second : State}
    (agree : ∀ pair ∈ pairs, LinesAgree selected pair.1 pair.2)
    (alike : first.Alike selected second) :
    (after (pairs.map (·.1)) first).Alike selected (after (pairs.map (·.2)) second) := by
  induction pairs generalizing first second with
  | nil => exact alike
  | cons pair rest ih =>
    exact ih (fun other member => agree other (List.mem_cons_of_mem _ member))
      (alike_advance (agree pair List.mem_cons_self).statement alike)

theorem filter_reports_of_agree (config : Config) {pairs : List (Line × Line)}
    {first second : State} (agree : ∀ pair ∈ pairs, LinesAgree selected pair.1 pair.2)
    (alike : first.Alike selected second) :
    ((reports config (pairs.map (·.1)) first).map worded).filter (selected ·.code) =
      ((reports config (pairs.map (·.2)) second).map worded).filter (selected ·.code) := by
  induction pairs generalizing first second with
  | nil => rfl
  | cons pair rest ih =>
    have head := agree pair List.mem_cons_self
    have later := ih (fun other member => agree other (List.mem_cons_of_mem _ member))
      (alike_advance head.statement alike)
    have number : pair.1.number = pair.2.number := head.statement.line
    have here : ∀ (line : Line) (found : List Finding),
        ((found.map (line.number, ·)).map worded).filter (selected ·.code) =
          (kept selected found).map (worded ⟨line.number, ·⟩) := by
      intro line found
      rw [List.map_map, List.filter_map]
      rfl
    simp only [List.map_cons, reports, List.map_append, List.filter_append, here, later,
      kept_findings_of_agree config head alike, number]

end Check

/-! ## The sweeps -/

namespace Sweep

variable {selected : Text → Bool} {pairs : List (Statement × Statement)}

/-- The first statement that passes a test is seen alike in both lists. -/
theorem find?_map_congr {β : Type} {test : Statement → Bool} {view : Statement → β}
    (same : ∀ pair ∈ pairs, test pair.1 = test pair.2 ∧ view pair.1 = view pair.2) :
    ((pairs.map (·.1)).find? test).map view = ((pairs.map (·.2)).find? test).map view := by
  induction pairs with
  | nil => rfl
  | cons pair rest ih =>
    obtain ⟨tests, views⟩ := same pair List.mem_cons_self
    have later := ih fun other member => same other (List.mem_cons_of_mem _ member)
    simp only [List.map_cons, List.find?_cons, ← tests]
    cases test pair.1 with
    | true => exact congrArg some views
    | false => exact later

theorem countP_map_congr {test : Statement → Bool}
    (same : ∀ pair ∈ pairs, test pair.1 = test pair.2) :
    (pairs.map (·.1)).countP test = (pairs.map (·.2)).countP test := by
  rw [List.countP_map, List.countP_map]
  refine List.countP_congr fun pair member => ?_
  simp only [Function.comp_apply, same pair member]

theorem extraCloserAfter_of_agree {earlier : List (Statement × Statement)}
    {pair : Statement × Statement} (chosen : selected "E020" = true)
    (agree : ∀ other ∈ pair :: earlier, Agree selected other.1 other.2) :
    extraCloserAfter (earlier.map (·.1)) pair.1 = extraCloserAfter (earlier.map (·.2)) pair.2 := by
  have texts := fun family member =>
    ((agree pair List.mem_cons_self).families chosen family member).2
  cases found : families.lookup pair.1.text with
  | none =>
    have absent : families.lookup pair.2.text = none := by
      rw [List.lookup_eq_none_iff] at found ⊢
      intro family member
      have other := found family member
      rwa [bne, texts family member, ← bne] at other
    simp only [extraCloserAfter, found, absent]
  | some opening =>
    have member : (pair.1.text, opening) ∈ families := by
      obtain ⟨before, behind, split, -⟩ := List.lookup_eq_some_iff.mp found
      rw [split]
      exact List.mem_append_right _ List.mem_cons_self
    have same : pair.2.text = pair.1.text := by
      have equal := texts _ member
      rw [beq_self_eq_true] at equal
      exact beq_iff_eq.mp equal.symm
    have opened : countOpening opening ((pair :: earlier).map (·.1)) =
        countOpening opening ((pair :: earlier).map (·.2)) :=
      countP_map_congr fun other present => ((agree other present).families chosen _ member).1
    have closed : countClosing pair.1.text ((pair :: earlier).map (·.1)) =
        countClosing pair.1.text ((pair :: earlier).map (·.2)) :=
      countP_map_congr fun other present => ((agree other present).families chosen _ member).2
    rw [List.map_cons, List.map_cons] at opened closed
    simp only [extraCloserAfter, same, found, opened, closed, (agree pair List.mem_cons_self).line]

theorem code_of_mem_extraClosersAfter {earlier statements : List Statement} :
    ∀ diagnostic ∈ extraClosersAfter earlier statements, diagnostic.code = ("E020" : Text) := by
  intro diagnostic member
  obtain ⟨line, closer, rfl⟩ := exists_extraCloser_of_mem member
  rfl

theorem extraClosersAfter_of_agree {earlier : List (Statement × Statement)}
    (chosen : selected "E020" = true)
    (seen : ∀ pair ∈ earlier, Agree selected pair.1 pair.2)
    (agree : ∀ pair ∈ pairs, Agree selected pair.1 pair.2) :
    extraClosersAfter (earlier.map (·.1)) (pairs.map (·.1)) =
      extraClosersAfter (earlier.map (·.2)) (pairs.map (·.2)) := by
  induction pairs generalizing earlier with
  | nil => rfl
  | cons pair rest ih =>
    have upToHere : ∀ other ∈ pair :: earlier, Agree selected other.1 other.2 :=
      List.forall_mem_cons.mpr ⟨agree pair List.mem_cons_self, seen⟩
    have later := ih upToHere fun other member => agree other (List.mem_cons_of_mem _ member)
    rw [List.map_cons, List.map_cons] at later
    simp only [List.map_cons, extraClosersAfter, extraCloserAfter_of_agree chosen upToHere, later]

theorem code_of_mem_endfors {statements : List Statement} :
    ∀ diagnostic ∈ endfors statements, diagnostic.code = ("E020" : Text) := by
  intro diagnostic member
  obtain ⟨line, rfl⟩ := exists_forEndedByEndfor_of_mem member
  rfl

theorem endfors_of_agree (chosen : selected "E020" = true)
    (agree : ∀ pair ∈ pairs, Agree selected pair.1 pair.2) :
    endfors (pairs.map (·.1)) = endfors (pairs.map (·.2)) := by
  induction pairs with
  | nil => rfl
  | cons pair rest ih =>
    have others : ∀ other ∈ rest, Agree selected other.1 other.2 :=
      fun other member => agree other (List.mem_cons_of_mem _ member)
    have loop := (agree pair List.mem_cons_self).firstWord (.inl chosen) "FOR" (by decide)
    have wrong : ∀ statements : List Statement,
        (statements.find? (·.startsWith "ENDFOR")).toList.map
            (Finding.forEndedByEndfor.on ·.line) =
          ((statements.find? (·.startsWith "ENDFOR")).map
            (Finding.forEndedByEndfor.on ·.line)).toList := by
      intro statements
      cases statements.find? (·.startsWith "ENDFOR") <;> rfl
    have found : ((rest.map (·.1)).find? (·.startsWith "ENDFOR")).map
          (Finding.forEndedByEndfor.on ·.line) =
        ((rest.map (·.2)).find? (·.startsWith "ENDFOR")).map
          (Finding.forEndedByEndfor.on ·.line) := by
      refine find?_map_congr fun other member => ⟨?_, ?_⟩
      · exact (others other member).starts "ENDFOR" (by simp [heads])
      · rw [(others other member).line]
    simp only [List.map_cons, endfors_cons, loop, wrong, found, ih others]

theorem lengths_of_agree (table : SymbolTable)
    (agree : ∀ pair ∈ pairs, Agree selected pair.1 pair.2) :
    lengths table (pairs.map (·.1)) = lengths table (pairs.map (·.2)) := by
  induction pairs with
  | nil => rfl
  | cons pair rest ih =>
    have here := agree pair List.mem_cons_self
    have later := ih fun other member => agree other (List.mem_cons_of_mem _ member)
    simp only [lengths] at later
    simp only [lengths, List.map_cons, List.flatMap_cons, here.code, here.line, later]

theorem code_of_mem_emptyFors {statements : List Statement} :
    ∀ diagnostic ∈ emptyFors statements, diagnostic.code = ("W050" : Text) := by
  intro diagnostic member
  obtain ⟨line, rfl⟩ := exists_emptyForBody_of_mem member
  rfl

theorem emptyFors_of_agree (chosen : selected "W050" = true)
    (agree : ∀ pair ∈ pairs, Agree selected pair.1 pair.2) :
    emptyFors (pairs.map (·.1)) = emptyFors (pairs.map (·.2)) := by
  induction pairs with
  | nil => rfl
  | cons pair rest ih =>
    have here := agree pair List.mem_cons_self
    have others : ∀ other ∈ rest, Agree selected other.1 other.2 :=
      fun other member => agree other (List.mem_cons_of_mem _ member)
    have closes : ∀ statements : List Statement, (statements.find? (·.isContent)).any closesFor =
        ((statements.find? (·.isContent)).map closesFor).getD false := by
      intro statements
      cases statements.find? (·.isContent) <;> rfl
    have next : ((rest.map (·.1)).find? (·.isContent)).map closesFor =
        ((rest.map (·.2)).find? (·.isContent)).map closesFor := by
      refine find?_map_congr fun other member => ⟨(others other member).content, ?_⟩
      exact (others other member).firstWord (.inr (.inr (.inr chosen))) "NEXT" (by decide)
    simp only [List.map_cons, emptyFors, here.forHeader chosen, here.line, closes, next, ih others]

theorem filter_all_of_agree (table : SymbolTable)
    (agree : ∀ pair ∈ pairs, Agree selected pair.1 pair.2) :
    (all table (pairs.map (·.1))).filter (selected ·.code) =
      (all table (pairs.map (·.2))).filter (selected ·.code) := by
  have closers : (extraClosers (pairs.map (·.1))).filter (selected ·.code) =
      (extraClosers (pairs.map (·.2))).filter (selected ·.code) :=
    filter_congr_of_code code_of_mem_extraClosersAfter code_of_mem_extraClosersAfter
      fun chosen => extraClosersAfter_of_agree chosen (List.forall_mem_nil _) agree
  have endings : (endfors (pairs.map (·.1))).filter (selected ·.code) =
      (endfors (pairs.map (·.2))).filter (selected ·.code) :=
    filter_congr_of_code code_of_mem_endfors code_of_mem_endfors
      fun chosen => endfors_of_agree chosen agree
  have empty : (emptyFors (pairs.map (·.1))).filter (selected ·.code) =
      (emptyFors (pairs.map (·.2))).filter (selected ·.code) :=
    filter_congr_of_code code_of_mem_emptyFors code_of_mem_emptyFors
      fun chosen => emptyFors_of_agree chosen agree
  simp only [all, List.filter_append, closers, endings, empty,
    lengths_of_agree table agree]

end Sweep

/-! ## Outcomes -/

namespace Check

/-- The lines with content of two sources are paired like their lines. -/
private theorem exists_contentPairs {left right : Text} {pairs : List (Line × Line)}
    (leftLines : Line.ofSource left = pairs.map (·.1))
    (rightLines : Line.ofSource right = pairs.map (·.2))
    (content : ∀ pair ∈ pairs, pair.1.isContent = pair.2.isContent) :
    ∃ contents : List (Line × Line), Line.contentOf left = contents.map (·.1) ∧
      Line.contentOf right = contents.map (·.2) ∧ ∀ pair ∈ contents, pair ∈ pairs := by
  have same : pairs.filter (·.2.isContent) = pairs.filter (·.1.isContent) :=
    List.filter_congr fun pair member => (content pair member).symm
  refine ⟨pairs.filter (·.1.isContent), ?_, ?_, fun pair member => (List.mem_filter.mp member).1⟩
  · rw [Line.contentOf, leftLines, List.filter_map]
    rfl
  · rw [Line.contentOf, rightLines, List.filter_map]
    exact congrArg (List.map (·.2)) same

/-- Sources fail together if the same of their lines have content and stop the check. -/
theorem run_error_of_pairs (config : Config) {left right : Text} {pairs : List (Line × Line)}
    (leftLines : Line.ofSource left = pairs.map (·.1))
    (rightLines : Line.ofSource right = pairs.map (·.2))
    (content : ∀ pair ∈ pairs, pair.1.isContent = pair.2.isContent)
    (long : ∀ pair ∈ pairs, pair.1.Overlong config ↔ pair.2.Overlong config) :
    (∃ fault, run config left = .error fault) ↔ ∃ fault, run config right = .error fault := by
  obtain ⟨contents, lefts, rights, within⟩ := exists_contentPairs leftLines rightLines content
  rw [run_error_iff, run_error_iff, lefts, rights]
  constructor
  · rintro ⟨line, member, stops⟩
    obtain ⟨pair, present, rfl⟩ := List.mem_map.mp member
    exact ⟨pair.2, List.mem_map_of_mem present,
      stops.imp_right (long pair (within pair present)).mp⟩
  · rintro ⟨line, member, stops⟩
    obtain ⟨pair, present, rfl⟩ := List.mem_map.mp member
    exact ⟨pair.1, List.mem_map_of_mem present,
      stops.imp_right (long pair (within pair present)).mpr⟩

section Outcomes

variable (config : Config) {selected : Text → Bool} {left right : Text} {pairs : List (Line × Line)}
  (leftLines : Line.ofSource left = pairs.map (·.1))
  (rightLines : Line.ofSource right = pairs.map (·.2))
  (agree : ∀ pair ∈ pairs, LinesAgree selected pair.1 pair.2)

include leftLines rightLines agree

private theorem exists_agreeing :
    ∃ contents : List (Line × Line), Line.contentOf left = contents.map (·.1) ∧
      Line.contentOf right = contents.map (·.2) ∧
        ∀ pair ∈ contents, LinesAgree selected pair.1 pair.2 := by
  obtain ⟨contents, lefts, rights, within⟩ := exists_contentPairs leftLines rightLines
    fun pair member => (agree pair member).statement.content
  exact ⟨contents, lefts, rights, fun pair member => agree pair (within pair member)⟩

private theorem anyContent_of_agree :
    Line.anyContent (Line.ofSource left) = Line.anyContent (Line.ofSource right) := by
  rw [leftLines, rightLines, Line.anyContent, Line.anyContent, List.any_map, List.any_map,
    Bool.eq_iff_iff, List.any_eq_true, List.any_eq_true]
  refine exists_congr fun pair => and_congr_right fun member => ?_
  have content : pair.1.isContent = pair.2.isContent := (agree pair member).statement.content
  simp only [Function.comp_apply, content]

theorem symbols_of_agree : (outcome config left).symbols = (outcome config right).symbols := by
  obtain ⟨contents, lefts, rights, agrees⟩ := exists_agreeing leftLines rightLines agree
  have start : State.Alike selected {} {} := ⟨rfl, fun _ => rfl⟩
  have tables := (alike_after agrees start).table
  simp only [symbols, outcome, anyContent_of_agree leftLines rightLines agree, lefts, rights]
  split
  · simp only [↓reduceIte, tables]
  · rfl

theorem filter_emitted_of_agree :
    (outcome config left).emitted.filter (selected ·.code) =
      (outcome config right).emitted.filter (selected ·.code) := by
  obtain ⟨contents, lefts, rights, agrees⟩ := exists_agreeing leftLines rightLines agree
  have start : State.Alike selected {} {} := ⟨rfl, fun _ => rfl⟩
  have alike := alike_after agrees start
  have same := anyContent_of_agree leftLines rightLines agree
  have reported := filter_reports_of_agree config agrees start
  have unclosed : ((after (contents.map (·.1)) {}).blocks.unclosed.map
        fun frame => worded (unmatchedReport frame)).filter (selected ·.code) =
      ((after (contents.map (·.2)) {}).blocks.unclosed.map
        fun frame => worded (unmatchedReport frame)).filter (selected ·.code) := by
    have codes : ∀ blocks : BlockStack, ∀ diagnostic ∈
        blocks.unclosed.map fun frame => worded (unmatchedReport frame),
        diagnostic.code = ("E020" : Text) :=
      fun _ => List.forall_mem_map.mpr fun _ _ => rfl
    refine filter_congr_of_code (codes _) (codes _) fun chosen => ?_
    rw [alike.blocks chosen]
  have swept : (Sweep.all (after (contents.map (·.1)) {}).table
        ((pairs.map (·.1)).map Line.statement)).filter (selected ·.code) =
      (Sweep.all (after (contents.map (·.2)) {}).table
        ((pairs.map (·.2)).map Line.statement)).filter (selected ·.code) := by
    have statements : ∀ pair ∈ pairs.map fun pair => (pair.1.statement, pair.2.statement),
        Agree selected pair.1 pair.2 :=
      List.forall_mem_map.mpr fun pair member => (agree pair member).statement
    have sweeps := Sweep.filter_all_of_agree (after (contents.map (·.2)) {}).table statements
    rw [List.map_map, List.map_map] at sweeps
    rw [alike.table, List.map_map, List.map_map]
    exact sweeps
  cases content : Line.anyContent (Line.ofSource right) with
  | false =>
    rw [content] at same
    simp only [outcome, same, content, Bool.false_eq_true, ↓reduceIte]
  | true =>
    rw [content] at same
    rw [emitted_outcome same, emitted_outcome content, lefts, rights, leftLines, rightLines]
    simp only [List.filter_append, reported, unclosed, swept]

/-- Sources whose lines agree for some codes have the same diagnostics with these codes. -/
theorem filter_diagnostics_of_agree :
    (outcome config left).diagnostics.filter (selected ·.code) =
      (outcome config right).diagnostics.filter (selected ·.code) := by
  have determined : ∀ source, (outcome config source).diagnostics.filter (selected ·.code) =
      Diagnostic.dedup ((outcome config source).emitted.filter (selected ·.code)) := by
    intro source
    apply Diagnostic.dedup_filter
    intro first firstIn second secondIn keys
    rw [eq_of_key_eq firstIn secondIn keys]
  rw [determined, determined, filter_emitted_of_agree config leftLines rightLines agree]

end Outcomes

end Check

end PseudoLint
