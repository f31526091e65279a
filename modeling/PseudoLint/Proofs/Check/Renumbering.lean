import PseudoLint.Proofs.Check.Provenance
import PseudoLint.Proofs.Check.Registration
import PseudoLint.Proofs.Diagnostic
import PseudoLint.Proofs.Finding.Renumbering

/-! # Checks on moved lines

No rule compares the numbers of lines or does arithmetic with them: they are written down, and they
are quoted. So if the lines of a source move by some map, what is known after each line moves with
them, and so do the findings of the line pass, the open blocks and the sweeps.
-/

namespace PseudoLint

/-- If every item of a list has an origin, the list has a list of origins. -/
theorem exists_map_eq {α β : Type} {derive : α → β} {P : α → Prop} {items : List β}
    (each : ∀ item ∈ items, ∃ origin, item = derive origin ∧ P origin) :
    ∃ origins : List α, items = origins.map derive ∧ ∀ origin ∈ origins, P origin := by
  induction items with
  | nil => exact ⟨[], rfl, List.forall_mem_nil _⟩
  | cons item rest ih =>
    obtain ⟨origin, rfl, holds⟩ := each item List.mem_cons_self
    obtain ⟨origins, rfl, all⟩ := ih fun other member => each other (List.mem_cons_of_mem _ member)
    exact ⟨origin :: origins, rfl, List.forall_mem_cons.mpr ⟨holds, all⟩⟩

/-- A statement on another line. -/
def Statement.renumber (move : Int → Int) (statement : Statement) : Statement :=
  { statement with line := move statement.line }

/-- A line with another number. -/
def Line.renumber (move : Int → Int) (line : Line) : Line :=
  { line with number := move line.number }

/-- A block that was opened on another line. -/
def Frame.renumber (move : Int → Int) (frame : Frame) : Frame :=
  { frame with line := move frame.line }

/-- What is known, with all lines moved. -/
def State.renumber (move : Int → Int) (state : State) : State :=
  ⟨state.table.renumber move, state.blocks.map (Frame.renumber move)⟩

section Step

variable (move : Int → Int)

namespace Statement

variable (statement : Statement)

@[simp] theorem line_renumber : (statement.renumber move).line = move statement.line := rfl

@[simp] theorem text_renumber : (statement.renumber move).text = statement.text := rfl

@[simp] theorem code_renumber : (statement.renumber move).code = statement.code := rfl

@[simp] theorem firstWord_renumber : (statement.renumber move).firstWord = statement.firstWord :=
  rfl

@[simp] theorem startsWith_renumber (start : Text) :
    (statement.renumber move).startsWith start = statement.startsWith start := rfl

theorem accesses_renumber : (statement.renumber move).accesses = statement.accesses := by
  rw [accesses, code_renumber, accesses]

end Statement

/-! ## Registrations -/

theorem Rule.parameter?_renumber (line : Int) (text : Text) :
    Rule.parameter? (move line) text =
      (Rule.parameter? line text).map (Parameter.renumber move) := by
  unfold Rule.parameter?
  dsimp only
  repeat' split
  all_goals rfl

theorem Rule.parameters_renumber (statement : Statement) :
    Rule.parameters (statement.renumber move) =
      (Rule.parameters statement).map (Parameter.renumber move) := by
  rw [Rule.parameters, Rule.parameters, Statement.code_renumber, Statement.line_renumber]
  cases Form.parameterList.first? statement.code with
  | none => rfl
  | some inside =>
    dsimp only
    rw [List.map_filterMap]
    exact congrArg (List.filterMap · _) (funext (Rule.parameter?_renumber move statement.line))

theorem Rule.declaredNames?_renumber (statement : Statement) :
    Rule.declaredNames? (statement.renumber move) = Rule.declaredNames? statement := by
  rw [Rule.declaredNames?, Statement.code_renumber, Rule.declaredNames?]

theorem definitions_renumber (line : Int) (type : Text) (names : List Text) :
    definitions (move line) type names =
      (definitions line type names).map (Registration.renumber move) := by
  simp only [definitions, List.map_map]
  rfl

namespace Statement

variable (statement : Statement)

theorem variableRegistrations_renumber :
    (statement.renumber move).variableRegistrations =
      statement.variableRegistrations.map (Registration.renumber move) := by
  have array : (statement.renumber move).array? =
      statement.array?.map (ArraySymbol.renumber move) := by
    simp only [array?, code_renumber, Option.map_map]
    rfl
  have defined : ((Rule.declaredNames? statement).elim [] fun declared =>
      definitions (move statement.line) declared.2 declared.1) =
        ((Rule.declaredNames? statement).elim [] fun declared =>
          definitions statement.line declared.2 declared.1).map (Registration.renumber move) := by
    cases Rule.declaredNames? statement with
    | none => rfl
    | some declared => exact definitions_renumber ..
  have recorded : (statement.array?.map (ArraySymbol.renumber move)).toList.map .array =
      (statement.array?.toList.map .array).map (Registration.renumber move) := by
    cases statement.array? <;> rfl
  unfold variableRegistrations
  rw [Rule.declaredNames?_renumber, array, startsWith_renumber, line_renumber, defined, recorded]
  split
  · rw [List.map_append]
  · rfl

theorem constantRegistrations_renumber :
    (statement.renumber move).constantRegistrations =
      statement.constantRegistrations.map (Registration.renumber move) := by
  have constant : Rule.declaredConstant? (statement.renumber move) =
      (Rule.declaredConstant? statement).map (Symbol.renumber move) := by
    simp only [Rule.declaredConstant?, text_renumber, Option.map_map]
    rfl
  unfold constantRegistrations
  rw [constant, startsWith_renumber]
  split
  · cases Rule.declaredConstant? statement <;> rfl
  · rfl

theorem headerRegistrations_renumber :
    (statement.renumber move).headerRegistrations =
      statement.headerRegistrations.map (Registration.renumber move) := by
  have function : Rule.declaredFunction? (statement.renumber move) =
      (Rule.declaredFunction? statement).map (Symbol.renumber move) := by
    simp only [Rule.declaredFunction?, Rule.returnType?, code_renumber, Option.map_map,
      Rule.parameters_renumber]
    rfl
  have bound : ((Rule.parameters statement).map (Parameter.renumber move)).map
      (fun parameter => Registration.binding parameter.symbol) =
        ((Rule.parameters statement).map fun parameter => .binding parameter.symbol).map
          (Registration.renumber move) := by
    rw [List.map_map, List.map_map]
    rfl
  unfold headerRegistrations
  rw [function, firstWord_renumber, Rule.parameters_renumber]
  dsimp only
  rw [bound]
  split
  · rw [List.map_append]
    cases Rule.declaredFunction? statement <;> rfl
  split
  · rfl
  · rfl

theorem registrations_renumber :
    (statement.renumber move).registrations =
      statement.registrations.map (Registration.renumber move) := by
  simp only [registrations, variableRegistrations_renumber, constantRegistrations_renumber,
    headerRegistrations_renumber, List.map_append]

end Statement

namespace Rule

variable (statement : Statement) (table : SymbolTable)

theorem registered_renumber :
    registered (statement.renumber move) (table.renumber move) =
      (registered statement table).renumber move := by
  rw [registered_eq, registered_eq, Statement.registrations_renumber,
    SymbolTable.registerAll_renumber]

/-! ## Blocks -/

theorem turnBlocks_renumber (blocks : BlockStack) :
    turnBlocks (statement.renumber move) (blocks.map (Frame.renumber move)) =
      ((turnBlocks statement blocks).1.map (Frame.renumber move),
        (turnBlocks statement blocks).2) := by
  unfold turnBlocks
  dsimp only
  rw [Statement.firstWord_renumber]
  split
  · rfl
  split
  · cases blocks with
    | nil => rfl
    | cons frame rest => rfl
  · rfl

/-! ## Findings -/

theorem map_renumber_whenever (condition : Bool) (finding : Finding) :
    (whenever condition finding).map (Finding.renumber move) =
      whenever condition (finding.renumber move) := by
  cases condition <;> rfl

theorem unknownWordFindings_renumber :
    unknownWordFindings (statement.renumber move) (table.renumber move) =
      unknownWordFindings statement table := by
  simp only [unknownWordFindings, isUnknownWord, SymbolTable.isKnown_renumber,
    Statement.firstWord_renumber, Statement.text_renumber]

/-- A declaration that is refused quotes the line of the one that is present. -/
theorem declareVariable_renumber (line : Int) (type name : Text) :
    declareVariable (move line) type name (table.renumber move) =
      ((declareVariable line type name table).1.renumber move,
        (declareVariable line type name table).2.map (Finding.renumber move)) := by
  unfold declareVariable
  split
  · rfl
  · unfold SymbolTable.define
    rw [SymbolTable.resolve?_renumber]
    dsimp only
    cases table.resolve? name with
    | none =>
      have bound := SymbolTable.bind_renumber move table ⟨name, type, line, .variable⟩
      exact congrArg (·, []) bound
    | some present =>
      have types : (present.renumber move).type = present.type := rfl
      simp only [Option.map_some, types]
      split
      · rfl
      · rfl

theorem declareVariables_renumber (line : Int) (type : Text) (names : List Text) :
    declareVariables (move line) type names (table.renumber move) =
      ((declareVariables line type names table).1.renumber move,
        (declareVariables line type names table).2.map (Finding.renumber move)) := by
  induction names generalizing table with
  | nil => rfl
  | cons name rest ih =>
    simp only [declareVariables, declareVariable_renumber, ih, List.map_append]

theorem declareFindings_renumber :
    declareFindings (statement.renumber move) (table.renumber move) =
      (declareFindings statement table).map (Finding.renumber move) := by
  have form : declarationFormFindings (statement.renumber move) =
      (declarationFormFindings statement).map (Finding.renumber move) := by
    unfold declarationFormFindings
    dsimp only
    rw [Statement.code_renumber, Statement.text_renumber]
    split
    · simp only [List.map_append, map_renumber_whenever]
      rfl
    · simp only [List.map_append, map_renumber_whenever]
      rfl
  have declared : (declareNames (statement.renumber move) (table.renumber move)).2 =
      (declareNames statement table).2.map (Finding.renumber move) := by
    unfold declareNames
    rw [declaredNames?_renumber]
    cases declaredNames? statement with
    | none => rfl
    | some found => exact congrArg Prod.snd (declareVariables_renumber ..)
  unfold declareFindings
  rw [Statement.startsWith_renumber, form, declared]
  split
  · rw [List.map_append]
  · rfl

theorem accessFindings_renumber (access : Text × Int) :
    accessFindings (table.renumber move) access =
      (accessFindings table access).map (Finding.renumber move) := by
  obtain ⟨name, index⟩ := access
  simp only [accessFindings, SymbolTable.array?_renumber]
  cases table.array? name with
  | none => rfl
  | some array =>
    have within : (array.renumber move).contains index = array.contains index := rfl
    simp only [Option.map_some, within, map_renumber_whenever]
    rfl

theorem literalFindings_renumber :
    literalFindings (statement.renumber move) (table.renumber move) =
      literalFindings statement table := by
  have assigned : stringAssignmentFindings (statement.renumber move) (table.renumber move) =
      stringAssignmentFindings statement table := by
    unfold stringAssignmentFindings
    rw [Statement.text_renumber]
    cases Form.stringAssignment.first? statement.text with
    | none => rfl
    | some name =>
      dsimp only
      rw [SymbolTable.resolve?_renumber]
      cases table.resolve? name <;> rfl
  unfold literalFindings
  rw [assigned]
  rfl

theorem targetFindings_renumber :
    targetFindings (statement.renumber move) (table.renumber move) =
      targetFindings statement table := by
  simp only [targetFindings, Statement.text_renumber, SymbolTable.isDeclared_renumber]

theorem usageFindings_renumber :
    usageFindings (statement.renumber move) (table.renumber move) =
      usageFindings statement table := by
  simp only [usageFindings, SymbolTable.isDeclared_renumber]
  rfl

theorem callFindings_renumber :
    callFindings (statement.renumber move) (table.renumber move) =
      callFindings statement table := by
  simp only [callFindings, Statement.startsWith_renumber, Statement.text_renumber,
    SymbolTable.isFunction_renumber]

end Rule

end Step

/-! ## The step and the run -/

namespace Check

variable (move : Int → Int)

/-- A finding on another line, with the lines that it mentions moved. -/
def renumberReport (report : Int × Finding) : Int × Finding :=
  (move report.1, report.2.renumber move)

theorem map_renumber_onTopic (config : Config) (line : Line) (state : State)
    {topic : Finding.Topic} (declaration : topic ≠ .declaration) (bounds : topic ≠ .bounds) :
    (onTopic config line state topic).map (Finding.renumber move) =
      onTopic config line state topic := by
  have fixed : ∀ finding ∈ onTopic config line state topic,
      finding.renumber move = id finding := by
    intro finding member
    have about := (about_of_mem_onTopic topic finding member).2
    exact Finding.renumber_of_topic move (about ▸ declaration) (about ▸ bounds)
  rw [List.map_congr_left fixed, List.map_id]

/-- The rules on each topic take the moved line as they take the line. -/
theorem onTopic_renumber (config : Config) (line : Line) (state : State) (topic : Finding.Topic) :
    onTopic config (line.renumber move) (state.renumber move) topic =
      (onTopic config line state topic).map (Finding.renumber move) := by
  have statement : (line.renumber move).statement = line.statement.renumber move := rfl
  have table : (state.renumber move).table = state.table.renumber move := rfl
  have blocks : (state.renumber move).blocks = state.blocks.map (Frame.renumber move) := rfl
  have registered := Rule.registered_renumber move line.statement state.table
  cases topic with
  | declaration => exact Rule.declareFindings_renumber move line.statement state.table
  | bounds =>
    simp only [onTopic, statement, table, registered, Statement.accesses_renumber,
      List.map_flatMap]
    exact congrArg (List.flatMap · line.statement.accesses)
      (funext (Rule.accessFindings_renumber move _))
  | unknownWord =>
    rw [map_renumber_onTopic move config line state (by decide) (by decide)]
    exact Rule.unknownWordFindings_renumber move line.statement state.table
  | nesting =>
    rw [map_renumber_onTopic move config line state (by decide) (by decide)]
    simp only [onTopic, statement, blocks, Rule.turnBlocks_renumber]
  | literal =>
    rw [map_renumber_onTopic move config line state (by decide) (by decide)]
    simp only [onTopic, statement, table, registered, Rule.literalFindings_renumber]
  | undeclared =>
    rw [map_renumber_onTopic move config line state (by decide) (by decide)]
    simp only [onTopic, statement, table, registered, Rule.targetFindings_renumber,
      Rule.usageFindings_renumber]
  | call =>
    rw [map_renumber_onTopic move config line state (by decide) (by decide)]
    simp only [onTopic, statement, table, registered, Rule.callFindings_renumber]
  | content | sweep | layout | wording | keyword | constant | subprogram | shape | file =>
    rw [map_renumber_onTopic move config line state (by decide) (by decide)]
    rfl

theorem findings_renumber (config : Config) (line : Line) (state : State) :
    findings config (line.renumber move) (state.renumber move) =
      (findings config line state).map (Finding.renumber move) := by
  rw [findings_eq_flatMap, findings_eq_flatMap, List.map_flatMap]
  exact congrArg (List.flatMap · topics) (funext (onTopic_renumber move config line state))

theorem advance_renumber (statement : Statement) (state : State) :
    advance (statement.renumber move) (state.renumber move) =
      (advance statement state).renumber move := by
  simp only [advance, State.renumber, Rule.registered_renumber, Rule.turnBlocks_renumber]

theorem after_renumber (lines : List Line) (state : State) :
    after (lines.map (Line.renumber move)) (state.renumber move) =
      (after lines state).renumber move := by
  induction lines generalizing state with
  | nil => rfl
  | cons line rest ih =>
    rw [List.map_cons, after_cons, after_cons, ← ih, ← advance_renumber]
    rfl

theorem reports_renumber (config : Config) (lines : List Line) (state : State) :
    reports config (lines.map (Line.renumber move)) (state.renumber move) =
      (reports config lines state).map (renumberReport move) := by
  induction lines generalizing state with
  | nil => rfl
  | cons line rest ih =>
    rw [List.map_cons, reports, reports, List.map_append, ← ih, ← advance_renumber,
      findings_renumber, List.map_map, List.map_map]
    rfl

end Check

/-! ## The sweeps -/

/-- A diagnostic on another line. -/
def Diagnostic.moveLine (move : Int → Int) (diagnostic : Diagnostic) : Diagnostic :=
  { diagnostic with line := move diagnostic.line }

namespace Sweep

variable (move : Int → Int)

theorem countP_renumber (holds : Statement → Bool) (statements : List Statement)
    (same : ∀ statement, holds (statement.renumber move) = holds statement) :
    (statements.map (Statement.renumber move)).countP holds = statements.countP holds := by
  rw [List.countP_map]
  exact congrArg (List.countP · statements) (funext same)

theorem find?_renumber (holds : Statement → Bool) (statements : List Statement)
    (same : ∀ statement, holds (statement.renumber move) = holds statement) :
    (statements.map (Statement.renumber move)).find? holds =
      (statements.find? holds).map (Statement.renumber move) := by
  rw [List.find?_map]
  exact congrArg (fun p => (statements.find? p).map (Statement.renumber move)) (funext same)

theorem extraCloserAfter_renumber (earlier : List Statement) (statement : Statement) :
    extraCloserAfter (earlier.map (Statement.renumber move)) (statement.renumber move) =
      (extraCloserAfter earlier statement).map (Diagnostic.moveLine move) := by
  unfold extraCloserAfter
  rw [Statement.text_renumber]
  cases families.lookup statement.text with
  | none => rfl
  | some opening =>
    dsimp only
    rw [← List.map_cons, countOpening, countClosing, countP_renumber move _ _ fun _ => rfl,
      countP_renumber move _ _ fun _ => rfl]
    unfold countOpening countClosing
    split
    · rfl
    · rfl

theorem extraClosersAfter_renumber (earlier statements : List Statement) :
    extraClosersAfter (earlier.map (Statement.renumber move))
        (statements.map (Statement.renumber move)) =
      (extraClosersAfter earlier statements).map (Diagnostic.moveLine move) := by
  induction statements generalizing earlier with
  | nil => rfl
  | cons statement rest ih =>
    rw [List.map_cons, extraClosersAfter, extraClosersAfter, List.map_append, ← ih,
      extraCloserAfter_renumber, List.map_cons]

theorem endfors_renumber (statements : List Statement) :
    endfors (statements.map (Statement.renumber move)) =
      (endfors statements).map (Diagnostic.moveLine move) := by
  induction statements with
  | nil => rfl
  | cons statement rest ih =>
    rw [List.map_cons, endfors_cons, endfors_cons, List.map_append, ih,
      Statement.firstWord_renumber, find?_renumber move _ _ fun _ => rfl]
    congr 1
    split
    · cases rest.find? (·.startsWith "ENDFOR") <;> rfl
    · rfl

theorem lengths_renumber (table : SymbolTable) (statements : List Statement) :
    lengths (table.renumber move) (statements.map (Statement.renumber move)) =
      (lengths table statements).map (Diagnostic.moveLine move) := by
  simp only [lengths, List.flatMap_map, List.map_flatMap, SymbolTable.resolve?_renumber,
    Statement.code_renumber]
  refine congrArg (List.flatMap · statements) (funext fun statement => ?_)
  refine congrArg (List.flatMap · _) (funext fun name => ?_)
  cases table.resolve? name with
  | none => rfl
  | some symbol =>
    have type : (symbol.renumber move).type = symbol.type := rfl
    simp only [Option.map_some, type]
    split
    · rfl
    · rfl

theorem emptyFors_renumber (statements : List Statement) :
    emptyFors (statements.map (Statement.renumber move)) =
      (emptyFors statements).map (Diagnostic.moveLine move) := by
  induction statements with
  | nil => rfl
  | cons statement rest ih =>
    have header : isForHeader (statement.renumber move) = isForHeader statement := rfl
    have closes : ((rest.find? (·.isContent)).map (Statement.renumber move)).any closesFor =
        (rest.find? (·.isContent)).any closesFor := by
      cases rest.find? (·.isContent) <;> rfl
    rw [List.map_cons, emptyFors, emptyFors, List.map_append, ih, header,
      find?_renumber move _ _ fun _ => rfl, closes]
    congr 1
    split
    · rfl
    · rfl

theorem all_renumber (table : SymbolTable) (statements : List Statement) :
    all (table.renumber move) (statements.map (Statement.renumber move)) =
      (all table statements).map (Diagnostic.moveLine move) := by
  have closers := extraClosersAfter_renumber move [] statements
  rw [List.map_nil] at closers
  simp only [all, extraClosers, closers, endfors_renumber, lengths_renumber, emptyFors_renumber,
    List.map_append]

/-- What the sweeps say words findings that mention no line, so moving the line of each diagnostic
is moving its finding. -/
theorem exists_reports (table : SymbolTable) (statements : List Statement) :
    ∃ reports : List (Int × Finding), (∀ report ∈ reports, report.2.WellQuoted) ∧
      all table statements = reports.map Check.worded ∧
      all (table.renumber move) (statements.map (Statement.renumber move)) =
        reports.map fun report => Check.worded (Check.renumberReport move report) := by
  obtain ⟨reports, swept, about⟩ : ∃ reports : List (Int × Finding),
      all table statements = reports.map Check.worded ∧
        ∀ report ∈ reports, report.2.About .sweep :=
    exists_map_eq fun _ => about_of_mem_all
  refine ⟨reports, fun report member => (about report member).1, swept, ?_⟩
  rw [all_renumber, swept, List.map_map]
  apply List.map_congr_left
  intro report member
  have topic := (about report member).2
  have fixed : report.2.renumber move = report.2 :=
    Finding.renumber_of_topic move (by rw [topic]; decide) (by rw [topic]; decide)
  simp only [Check.renumberReport, fixed]
  rfl

end Sweep

/-! ## Everything that is emitted -/

namespace Check

/-- What a check emits if it is given only lines with content. -/
def emittedOn (config : Config) (lines : List Line) : List Diagnostic :=
  (reports config lines {}).map worded ++
    (after lines {}).blocks.unclosed.map (fun frame => worded (unmatchedReport frame)) ++
      Sweep.all (after lines {}).table (lines.map Line.statement)

variable (move : Int → Int)

theorem exists_reports_emittedOn (config : Config) (lines : List Line) :
    ∃ items : List (Int × Finding), (∀ item ∈ items, item.2.WellQuoted) ∧
      emittedOn config lines = items.map worded ∧
      emittedOn config (lines.map (Line.renumber move)) =
        items.map fun item => worded (renumberReport move item) := by
  have state : after (lines.map (Line.renumber move)) {} = (after lines {}).renumber move :=
    after_renumber move lines {}
  have reported : reports config (lines.map (Line.renumber move)) {} =
      (reports config lines {}).map (renumberReport move) :=
    reports_renumber move config lines {}
  have table : ((after lines {}).renumber move).table = (after lines {}).table.renumber move := rfl
  have unclosed : ((after lines {}).renumber move).blocks.unclosed =
      (after lines {}).blocks.unclosed.map (Frame.renumber move) :=
    List.map_reverse.symm
  have statements : (lines.map (Line.renumber move)).map Line.statement =
      (lines.map Line.statement).map (Statement.renumber move) := by
    rw [List.map_map, List.map_map]
    rfl
  obtain ⟨swept, quoted, before, behind⟩ :=
    Sweep.exists_reports move (after lines {}).table (lines.map Line.statement)
  refine ⟨reports config lines {} ++ (after lines {}).blocks.unclosed.map unmatchedReport ++ swept,
    ?_, ?_, ?_⟩
  · simp only [List.forall_mem_append]
    refine ⟨⟨fun report member => wellQuoted_of_mem_reports member, ?_⟩, quoted⟩
    exact List.forall_mem_map.mpr fun frame _ => trivial
  · simp only [emittedOn, before, List.map_append, List.map_map]
    rfl
  · rw [emittedOn, state, reported, statements, unclosed, table, behind]
    simp only [List.map_append, List.map_map]
    rfl

/-- Removing duplicates keeps the same findings on the moved lines. -/
theorem exists_kept_emittedOn {move : Int → Int} (apart : ∀ a b, move a = move b → a = b)
    (config : Config) (lines : List Line) :
    ∃ kept : List (Int × Finding), (∀ report ∈ kept, report.2.WellQuoted) ∧
      Diagnostic.dedup (emittedOn config lines) = kept.map worded ∧
      Diagnostic.dedup (emittedOn config (lines.map (Line.renumber move))) =
        kept.map fun report => worded (renumberReport move report) := by
  obtain ⟨items, quoted, before, behind⟩ := exists_reports_emittedOn move config lines
  have alike : ∀ item ∈ items, ∀ other ∈ items, (worded item).key = (worded other).key ↔
      (worded (renumberReport move item)).key = (worded (renumberReport move other)).key := by
    intro item member other present
    have messages := Finding.message_renumber_eq_iff apart (quoted item member)
      (quoted other present)
    have lines : item.1 = other.1 ↔ move item.1 = move other.1 :=
      ⟨congrArg move, apart item.1 other.1⟩
    simp only [Diagnostic.key, worded, Finding.on, renumberReport, Prod.mk.injEq]
    exact and_congr lines messages
  obtain ⟨kept, sublist, left, right⟩ := Diagnostic.dedup_map alike
  refine ⟨kept, fun report member => quoted report (sublist.subset member), ?_, ?_⟩
  · rw [before, left]
  · rw [behind, right]

end Check

end PseudoLint
