import PseudoLint.Proofs.Check.Run
import PseudoLint.Proofs.Finding.Topic
import PseudoLint.Proofs.Identifier
import PseudoLint.Proofs.Sweep

/-! # Where diagnostics come from

Every emitted diagnostic words a finding. On a line, each group of rules keeps to its topic, and the
names that its messages quote contain no single quote. Only the rule on first words speaks about the
nesting of blocks; the findings of all others are `Ordinary`. The sweeps quote no names at all.
-/

namespace PseudoLint

namespace Rule

@[simp] theorem mem_whenever {condition : Bool} {finding reported : Finding} :
    finding ∈ whenever condition reported ↔ condition = true ∧ finding = reported := by
  cases condition <;> simp [whenever]

theorem forall_mem_whenever {condition : Bool} {reported : Finding} {P : Finding → Prop}
    (holds : P reported) : ∀ finding ∈ whenever condition reported, P finding := by
  intro finding member
  rw [(mem_whenever.mp member).2]
  exact holds

private theorem not_quote_of_isName {name : Text} (valid : isName name = true) : '\'' ∉ name :=
  not_mem_of_isName valid (by decide)

theorem about_of_mem_wordingFindings {statement : Statement} :
    ∀ finding ∈ wordingFindings statement, finding.About .wording := by
  refine List.forall_mem_append.mpr ⟨forall_mem_whenever ⟨trivial, rfl⟩,
    List.forall_mem_append.mpr ⟨?_, forall_mem_whenever ⟨trivial, rfl⟩⟩⟩
  intro finding member
  obtain ⟨word, -, found⟩ := List.mem_flatMap.mp member
  unfold nameShapeFindings at found
  split at found
  · cases found
  split at found
  · rw [List.mem_singleton.mp found]
    exact ⟨trivial, rfl⟩
  · exact forall_mem_whenever ⟨trivial, rfl⟩ finding found

theorem about_of_mem_unknownWordFindings {statement : Statement} {table : SymbolTable} :
    ∀ finding ∈ unknownWordFindings statement table, finding.About .unknownWord := by
  unfold unknownWordFindings
  split
  · exact forall_mem_whenever ⟨trivial, rfl⟩
  · exact List.forall_mem_nil _

theorem about_of_mem_keywordFindings {statement : Statement} :
    ∀ finding ∈ keywordFindings statement, finding.About .keyword := by
  refine List.forall_mem_append.mpr ⟨?_, ?_⟩
  · intro finding member
    obtain ⟨word, -, rfl⟩ := List.mem_map.mp member
    exact ⟨trivial, rfl⟩
  · intro finding member
    obtain ⟨word, found, rfl⟩ := List.mem_map.mp member
    exact ⟨not_quote_of_isName (isName_of_mem_names (List.mem_filter.mp found).1), rfl⟩

theorem about_of_mem_declareVariable {line : Int} {type name : Text} {table : SymbolTable}
    (valid : isName name = true) :
    ∀ finding ∈ (declareVariable line type name table).2, finding.About .declaration := by
  have free := not_quote_of_isName valid
  unfold declareVariable
  split
  · exact List.forall_mem_singleton.mpr ⟨free, rfl⟩
  split
  · exact List.forall_mem_nil _
  split
  · exact List.forall_mem_singleton.mpr ⟨free, rfl⟩
  · exact List.forall_mem_singleton.mpr ⟨free, rfl⟩

theorem about_of_mem_declareVariables {line : Int} {type : Text} {names : List Text}
    {table : SymbolTable} (valid : ∀ name ∈ names, isName name = true) :
    ∀ finding ∈ (declareVariables line type names table).2, finding.About .declaration := by
  induction names generalizing table with
  | nil => exact List.forall_mem_nil _
  | cons name rest ih =>
    exact List.forall_mem_append.mpr
      ⟨about_of_mem_declareVariable (valid name List.mem_cons_self),
        ih fun other member => valid other (List.mem_cons_of_mem _ member)⟩

theorem isName_of_mem_declaredNames {statement : Statement} {names : List Text} {type : Text}
    (declared : declaredNames? statement = some (names, type)) :
    ∀ name ∈ names, isName name = true := by
  unfold declaredNames? at declared
  split at declared
  · cases declared
    exact fun name member => (List.mem_filter.mp member).2
  · cases declared

theorem about_of_mem_declareFindings {statement : Statement} {table : SymbolTable} :
    ∀ finding ∈ declareFindings statement table, finding.About .declaration := by
  unfold declareFindings
  split
  · refine List.forall_mem_append.mpr ⟨?_, ?_⟩
    · unfold declareNames
      split
      · rename_i names type declared
        exact about_of_mem_declareVariables (isName_of_mem_declaredNames declared)
      · exact List.forall_mem_singleton.mpr ⟨trivial, rfl⟩
    · refine List.forall_mem_append.mpr ⟨?_, forall_mem_whenever ⟨trivial, rfl⟩⟩
      split
      · exact List.forall_mem_append.mpr
          ⟨forall_mem_whenever ⟨trivial, rfl⟩, forall_mem_whenever ⟨trivial, rfl⟩⟩
      · exact List.forall_mem_nil _
  · exact List.forall_mem_nil _

theorem about_of_mem_constantFindings {statement : Statement} :
    ∀ finding ∈ constantFindings statement, finding.About .constant := by
  unfold constantFindings
  split
  · exact List.forall_mem_append.mpr
      ⟨forall_mem_whenever ⟨trivial, rfl⟩, forall_mem_whenever ⟨trivial, rfl⟩⟩
  · exact List.forall_mem_nil _

theorem about_of_mem_subprogramFindings {statement : Statement} :
    ∀ finding ∈ subprogramFindings statement, finding.About .subprogram := by
  unfold subprogramFindings
  split
  · exact forall_mem_whenever ⟨trivial, rfl⟩
  · exact List.forall_mem_nil _

theorem about_of_mem_shapeFindings {statement : Statement} :
    ∀ finding ∈ shapeFindings statement, finding.About .shape :=
  List.forall_mem_append.mpr ⟨forall_mem_whenever ⟨trivial, rfl⟩, List.forall_mem_append.mpr
    ⟨forall_mem_whenever ⟨trivial, rfl⟩, forall_mem_whenever ⟨trivial, rfl⟩⟩⟩

theorem about_of_mem_literalFindings {statement : Statement} {table : SymbolTable} :
    ∀ finding ∈ literalFindings statement table, finding.About .literal := by
  refine List.forall_mem_append.mpr ⟨forall_mem_whenever ⟨trivial, rfl⟩,
    List.forall_mem_append.mpr ⟨?_, ?_⟩⟩
  · intro finding member
    obtain ⟨content, -, found⟩ := List.mem_flatMap.mp member
    unfold charLiteralFindings at found
    split at found
    · rw [List.mem_singleton.mp found]
      exact ⟨trivial, rfl⟩
    · cases found
    · exact forall_mem_whenever ⟨trivial, rfl⟩ finding found
  · unfold stringAssignmentFindings
    split
    · split
      · exact forall_mem_whenever ⟨trivial, rfl⟩
      · exact List.forall_mem_nil _
    · exact List.forall_mem_nil _

theorem about_of_mem_accesses {statement : Statement} {table : SymbolTable} :
    ∀ finding ∈ statement.accesses.flatMap (accessFindings table), finding.About .bounds := by
  intro finding member
  obtain ⟨⟨name, index⟩, -, found⟩ := List.mem_flatMap.mp member
  dsimp only [accessFindings] at found
  split at found
  · exact forall_mem_whenever ⟨trivial, rfl⟩ finding found
  · cases found

theorem about_of_mem_targetFindings {statement : Statement} {table : SymbolTable} :
    ∀ finding ∈ targetFindings statement table, finding.About .undeclared := by
  unfold targetFindings
  split
  · rename_i name assigned
    exact forall_mem_whenever ⟨not_quote_of_isName (Form.isName_of_assignedName assigned), rfl⟩
  · exact List.forall_mem_nil _

theorem about_of_mem_usageFindings {statement : Statement} {table : SymbolTable} :
    ∀ finding ∈ usageFindings statement table, finding.About .undeclared := by
  unfold usageFindings
  split
  · intro finding member
    obtain ⟨use, found, rfl⟩ := List.mem_map.mp member
    exact ⟨not_quote_of_isName (isName_of_mem_nameUses (List.mem_filter.mp found).1), rfl⟩
  · exact List.forall_mem_nil _

theorem about_of_mem_callFindings {statement : Statement} {table : SymbolTable} :
    ∀ finding ∈ callFindings statement table, finding.About .call := by
  unfold callFindings
  split
  · split
    · exact forall_mem_whenever ⟨trivial, rfl⟩
    · exact List.forall_mem_nil _
  · exact List.forall_mem_nil _

theorem about_of_mem_fileFindings {config : Config} {statement : Statement} :
    ∀ finding ∈ fileFindings config statement, finding.About .file := by
  unfold fileFindings openFileFindings
  split
  · split
    · exact forall_mem_whenever ⟨trivial, rfl⟩
    · exact forall_mem_whenever ⟨trivial, rfl⟩
  · exact List.forall_mem_nil _

theorem isNesting_of_mem_turnBlocks {statement : Statement} {blocks : BlockStack} :
    ∀ finding ∈ (turnBlocks statement blocks).2, finding.isNesting = true := by
  unfold turnBlocks
  dsimp only
  split
  · exact List.forall_mem_nil _
  split
  · cases blocks with
    | nil => exact List.forall_mem_singleton.mpr rfl
    | cons frame rest => exact forall_mem_whenever rfl
  · exact List.forall_mem_nil _

end Rule

theorem Finding.wellQuoted_of_isNesting {finding : Finding} (nesting : finding.isNesting = true) :
    finding.WellQuoted := by
  cases finding with
  | unexpectedCloser | mismatchedCloser | unmatchedOpener => trivial
  | _ => cases nesting

namespace Check

/-- What the rules on a topic find on a line. The rules on declarations see the table before the
line, those on literals and uses the table after it. -/
def onTopic (config : Config) (line : Line) (state : State) : Finding.Topic → List Finding
  | .content | .sweep => []
  | .layout => Rule.layoutFindings config line
  | .wording => Rule.wordingFindings line.statement
  | .unknownWord => Rule.unknownWordFindings line.statement state.table
  | .nesting => (Rule.turnBlocks line.statement state.blocks).2
  | .keyword => Rule.keywordFindings line.statement
  | .declaration => Rule.declareFindings line.statement state.table
  | .constant => Rule.constantFindings line.statement
  | .subprogram => Rule.subprogramFindings line.statement
  | .shape => Rule.shapeFindings line.statement
  | .literal => Rule.literalFindings line.statement (Rule.registered line.statement state.table)
  | .bounds =>
    line.statement.accesses.flatMap
      (Rule.accessFindings (Rule.registered line.statement state.table))
  | .undeclared =>
    Rule.targetFindings line.statement (Rule.registered line.statement state.table) ++
      Rule.usageFindings line.statement (Rule.registered line.statement state.table)
  | .call => Rule.callFindings line.statement (Rule.registered line.statement state.table)
  | .file => Rule.fileFindings config line.statement

theorem about_of_mem_onTopic {config : Config} {line : Line} {state : State}
    (topic : Finding.Topic) : ∀ finding ∈ onTopic config line state topic, finding.About topic := by
  cases topic with
  | content | sweep => exact List.forall_mem_nil _
  | layout => exact Rule.forall_mem_whenever ⟨trivial, rfl⟩
  | wording => exact Rule.about_of_mem_wordingFindings
  | unknownWord => exact Rule.about_of_mem_unknownWordFindings
  | nesting =>
    intro finding member
    have nesting := Rule.isNesting_of_mem_turnBlocks finding member
    exact ⟨Finding.wellQuoted_of_isNesting nesting, Finding.isNesting_iff.mp nesting⟩
  | keyword => exact Rule.about_of_mem_keywordFindings
  | declaration => exact Rule.about_of_mem_declareFindings
  | constant => exact Rule.about_of_mem_constantFindings
  | subprogram => exact Rule.about_of_mem_subprogramFindings
  | shape => exact Rule.about_of_mem_shapeFindings
  | literal => exact Rule.about_of_mem_literalFindings
  | bounds => exact Rule.about_of_mem_accesses
  | undeclared =>
    exact List.forall_mem_append.mpr
      ⟨Rule.about_of_mem_targetFindings, Rule.about_of_mem_usageFindings⟩
  | call => exact Rule.about_of_mem_callFindings
  | file => exact Rule.about_of_mem_fileFindings

/-- The topics in the order in which the rules take them up. -/
def topics : List Finding.Topic :=
  [.layout, .wording, .unknownWord, .nesting, .keyword, .declaration, .constant, .subprogram,
    .shape, .literal, .bounds, .undeclared, .call, .file]

theorem findings_eq_flatMap (config : Config) (line : Line) (state : State) :
    findings config line state = topics.flatMap (onTopic config line state) := by
  simp only [findings, Rule.laterFindings, Rule.useFindings, topics, onTopic, List.flatMap_cons,
    List.flatMap_nil, List.append_assoc, List.append_nil]

/-- Every finding on a line is found by the rules on its topic, and these find nothing else. -/
theorem mem_findings_iff {config : Config} {line : Line} {state : State} {finding : Finding} :
    finding ∈ findings config line state ↔ finding ∈ onTopic config line state finding.topic := by
  rw [findings_eq_flatMap, List.mem_flatMap]
  constructor
  · rintro ⟨topic, -, member⟩
    rw [(about_of_mem_onTopic topic finding member).2]
    exact member
  · intro member
    refine ⟨finding.topic, ?_, member⟩
    -- The rules say nothing on the two topics that are left out.
    cases topic : finding.topic with
    | content | sweep =>
      rw [topic] at member
      cases member
    | _ => decide

/-- What a line reports on a topic is what the rules on this topic find. -/
theorem filter_findings_of_topic {keep : Finding → Bool} {topic : Finding.Topic}
    (about : ∀ finding, keep finding = true → finding.topic = topic) (config : Config) (line : Line)
    (state : State) :
    (findings config line state).filter keep = (onTopic config line state topic).filter keep := by
  have quiet : ∀ other, other ≠ topic → (onTopic config line state other).filter keep = [] := by
    intro other differs
    refine List.filter_eq_nil_iff.mpr fun finding member kept => differs ?_
    rw [← (about_of_mem_onTopic other finding member).2]
    exact about finding kept
  rw [findings_eq_flatMap, List.filter_flatMap]
  simp only [topics, List.flatMap_cons, List.flatMap_nil]
  cases topic <;> simp (disch := decide) only [quiet, List.nil_append, List.append_nil] <;> rfl

theorem wellQuoted_of_mem_findings {config : Config} {line : Line} {state : State}
    {finding : Finding} (member : finding ∈ findings config line state) : finding.WellQuoted :=
  (about_of_mem_onTopic finding.topic finding (mem_findings_iff.mp member)).1

/-- On a line, every finding that the block stack does not report is ordinary. -/
theorem ordinary_of_mem_findings {config : Config} {line : Line} {state : State}
    {finding : Finding} (member : finding ∈ findings config line state) :
    finding ∈ (Rule.turnBlocks line.statement state.blocks).2 ∨ finding.Ordinary := by
  have found := mem_findings_iff.mp member
  by_cases nesting : finding.topic = .nesting
  · rw [nesting] at found
    exact .inl found
  · exact .inr ((about_of_mem_onTopic _ finding found).ordinary nesting)

theorem wellQuoted_of_mem_reports {config : Config} {lines : List Line} {state : State}
    {report : Int × Finding} (member : report ∈ reports config lines state) :
    report.2.WellQuoted := by
  obtain ⟨before, line, later, -, -, found⟩ := mem_reports_iff.mp member
  exact wellQuoted_of_mem_findings found

end Check

/-! ## The sweeps -/

namespace Sweep

theorem exists_extraCloser_of_mem {earlier statements : List Statement} {diagnostic : Diagnostic}
    (member : diagnostic ∈ extraClosersAfter earlier statements) :
    ∃ line closer, diagnostic = (Finding.extraCloser closer).on line := by
  induction statements generalizing earlier with
  | nil => cases member
  | cons statement rest ih =>
    rcases List.mem_append.mp member with here | there
    · unfold extraCloserAfter at here
      split at here
      · dsimp only at here
        split at here
        · exact ⟨_, _, List.mem_singleton.mp here⟩
        · cases here
      · cases here
    · exact ih there

theorem exists_forEndedByEndfor_of_mem {statements : List Statement} {diagnostic : Diagnostic}
    (member : diagnostic ∈ endfors statements) :
    ∃ line, diagnostic = Finding.forEndedByEndfor.on line := by
  induction statements with
  | nil => cases member
  | cons statement rest ih =>
    rw [endfors_cons] at member
    rcases List.mem_append.mp member with here | there
    · split at here
      · obtain ⟨other, -, rfl⟩ := List.mem_map.mp here
        exact ⟨_, rfl⟩
      · cases here
    · exact ih there

theorem exists_lengthOfOther_of_mem {table : SymbolTable} {statements : List Statement}
    {diagnostic : Diagnostic} (member : diagnostic ∈ lengths table statements) :
    ∃ line type, diagnostic = (Finding.lengthOfOther type).on line := by
  obtain ⟨statement, -, here⟩ := List.mem_flatMap.mp member
  obtain ⟨name, -, found⟩ := List.mem_flatMap.mp here
  split at found
  · split at found
    · cases found
    · exact ⟨_, _, List.mem_singleton.mp found⟩
  · cases found

theorem exists_emptyForBody_of_mem {statements : List Statement} {diagnostic : Diagnostic}
    (member : diagnostic ∈ emptyFors statements) :
    ∃ line, diagnostic = Finding.emptyForBody.on line := by
  induction statements with
  | nil => cases member
  | cons statement rest ih =>
    rcases List.mem_append.mp member with here | there
    · split at here
      · exact ⟨_, List.mem_singleton.mp here⟩
      · cases here
    · exact ih there

theorem about_of_mem_all {table : SymbolTable} {statements : List Statement}
    {diagnostic : Diagnostic} (member : diagnostic ∈ all table statements) :
    ∃ report, diagnostic = Check.worded report ∧ report.2.About .sweep := by
  simp only [all, List.mem_append] at member
  rcases member with ((closer | endfor) | length) | empty
  · obtain ⟨line, word, same⟩ := exists_extraCloser_of_mem closer
    exact ⟨(line, .extraCloser word), same, trivial, rfl⟩
  · obtain ⟨line, same⟩ := exists_forEndedByEndfor_of_mem endfor
    exact ⟨(line, .forEndedByEndfor), same, trivial, rfl⟩
  · obtain ⟨line, type, same⟩ := exists_lengthOfOther_of_mem length
    exact ⟨(line, .lengthOfOther type), same, trivial, rfl⟩
  · obtain ⟨line, same⟩ := exists_emptyForBody_of_mem empty
    exact ⟨(line, .emptyForBody), same, trivial, rfl⟩

theorem worded_of_mem_all {table : SymbolTable} {statements : List Statement}
    {diagnostic : Diagnostic} (member : diagnostic ∈ all table statements) :
    ∃ report, diagnostic = Check.worded report ∧ report.2.Ordinary := by
  obtain ⟨report, same, about⟩ := about_of_mem_all member
  exact ⟨report, same, about.ordinary (by decide)⟩

end Sweep

/-! ## Everything that is emitted -/

namespace Check

/-- Every diagnostic of an outcome words a finding whose message can be told from others. -/
theorem worded_of_mem_emitted {config : Config} {source : Text} {diagnostic : Diagnostic}
    (member : diagnostic ∈ (outcome config source).emitted) :
    ∃ report, diagnostic = worded report ∧ report.2.WellQuoted := by
  unfold outcome at member
  dsimp only at member
  split at member
  · simp only [List.mem_append] at member
    rcases member with (reported | unclosed) | swept
    · obtain ⟨report, present, rfl⟩ := List.mem_map.mp reported
      exact ⟨report, rfl, wellQuoted_of_mem_reports present⟩
    · obtain ⟨frame, -, rfl⟩ := List.mem_map.mp unclosed
      exact ⟨unmatchedReport frame, rfl, trivial⟩
    · obtain ⟨report, same, ordinary⟩ := Sweep.worded_of_mem_all swept
      exact ⟨report, same, ordinary.1⟩
  · exact ⟨(1, .noContent), List.mem_singleton.mp member, trivial⟩

/-- Every diagnostic of an outcome comes from the line pass or is on a topic of the end. -/
theorem report_of_mem_emitted {config : Config} {source : Text} {diagnostic : Diagnostic}
    (member : diagnostic ∈ (outcome config source).emitted) :
    ∃ report, diagnostic = worded report ∧
      (report ∈ reports config (Line.contentOf source) {} ∨ report.2.topic.isFinal = true) := by
  unfold outcome at member
  dsimp only at member
  split at member
  · simp only [List.mem_append] at member
    rcases member with (reported | unclosed) | swept
    · obtain ⟨report, present, rfl⟩ := List.mem_map.mp reported
      exact ⟨report, rfl, .inl present⟩
    · obtain ⟨frame, -, rfl⟩ := List.mem_map.mp unclosed
      exact ⟨unmatchedReport frame, rfl, .inr rfl⟩
    · obtain ⟨report, same, about⟩ := Sweep.about_of_mem_all swept
      exact ⟨report, same, .inr (congrArg Finding.Topic.isFinal about.2)⟩
  · exact ⟨(1, .noContent), List.mem_singleton.mp member, .inr rfl⟩

end Check

end PseudoLint
