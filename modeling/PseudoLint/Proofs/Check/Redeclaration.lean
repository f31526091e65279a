import PseudoLint.Proofs.Check.Listing
import PseudoLint.Proofs.Finding.Renumbering
import PseudoLint.Proofs.Form
import PseudoLint.Proofs.SymbolTable.History

/-! # Redeclarations

A declaration of a variable is reported as a redeclaration exactly if a symbol is in force under its
name. Which symbol that is follows from the registrations before it alone, on the same line or on
earlier ones, so the reports of a whole check can be listed without running it: each registration is
taken with the history in front of it (`redeclarationsAfter`). The induction goes over the lines and
carries that the table is the one of the history so far. The bounds of an array are a registration
of their own, which says nothing and which no symbol in force refuses.
-/

namespace PseudoLint

/-- The diagnostic on a variable that is declared while another symbol of its name is in force. -/
def Symbol.redeclaration (symbol present : Symbol) : Diagnostic :=
  if TypeText.normalize present.type = TypeText.normalize symbol.type then
    ⟨symbol.line, "Variable '" ++ symbol.name ++ "' already declared on line " ++
      Numeral.ofInt present.line, .warning, "W031"⟩
  else
    ⟨symbol.line, "Variable '" ++ symbol.name ++
      "' redeclared with different type. Previously declared as " ++ present.type ++ " on line " ++
        Numeral.ofInt present.line, .error, "E031"⟩

/-- Whether a diagnostic is one of the two on redeclarations. -/
def Diagnostic.isRedeclaration (diagnostic : Diagnostic) : Bool :=
  diagnostic.code == "W031" || diagnostic.code == "E031"

/-- What is said about a registration with a given history: only a definition can be refused. -/
def redeclarationOf (history : List Registration) : Registration → List Diagnostic
  | .definition symbol => (inForce symbol.name.lower history).toList.map symbol.redeclaration
  | .binding _ | .function _ | .array _ => []

/-- What is said about some registrations in order, each with all those before it as its history. -/
def redeclarationsAfter (history : List Registration) : List Registration → List Diagnostic
  | [] => []
  | event :: later =>
    redeclarationOf history event ++ redeclarationsAfter (history ++ [event]) later

theorem redeclarationsAfter_append (history first second : List Registration) :
    redeclarationsAfter history (first ++ second) =
      redeclarationsAfter history first ++ redeclarationsAfter (history ++ first) second := by
  induction first generalizing history with
  | nil => rw [List.append_nil]; rfl
  | cons event rest ih =>
    simp only [List.cons_append, redeclarationsAfter, ih, List.append_assoc, List.nil_append]

theorem redeclarationsAfter_eq_nil {history events : List Registration}
    (others : ∀ event ∈ events, event.definition? = none) :
    redeclarationsAfter history events = [] := by
  induction events generalizing history with
  | nil => rfl
  | cons event later ih =>
    have rest : redeclarationsAfter (history ++ [event]) later = [] :=
      ih fun other member => others other (List.mem_cons_of_mem _ member)
    rw [redeclarationsAfter, rest, List.append_nil]
    cases event with
    | definition symbol => cases others _ List.mem_cons_self
    | binding | function | array => rfl

/-- Each diagnostic belongs to a definition, at which a symbol of its name is in force. -/
theorem mem_redeclarationsAfter_iff {history events : List Registration}
    {diagnostic : Diagnostic} :
    diagnostic ∈ redeclarationsAfter history events ↔
      ∃ earlier symbol later present, events = earlier ++ .definition symbol :: later ∧
        inForce symbol.name.lower (history ++ earlier) = some present ∧
        diagnostic = symbol.redeclaration present := by
  constructor
  · intro member
    induction events generalizing history with
    | nil => cases member
    | cons event rest ih =>
      rcases List.mem_append.mp member with here | there
      · cases event with
        | definition symbol =>
          obtain ⟨present, found, rfl⟩ := List.mem_map.mp here
          refine ⟨[], symbol, rest, present, rfl, ?_, rfl⟩
          rw [List.append_nil]
          exact Option.mem_toList.mp found
        | binding | function | array => cases here
      · obtain ⟨earlier, symbol, later, present, rfl, found, same⟩ := ih there
        rw [List.append_assoc, List.singleton_append] at found
        exact ⟨event :: earlier, symbol, later, present, rfl, found, same⟩
  · rintro ⟨earlier, symbol, later, present, rfl, found, rfl⟩
    rw [redeclarationsAfter_append]
    refine List.mem_append_right _ (List.mem_append_left _ ?_)
    exact List.mem_map_of_mem (Option.mem_toList.mpr found)

/-! ## One line -/

/-- The finding on a variable that is declared while another symbol of its name is in force. -/
def Symbol.refusal (symbol present : Symbol) : Finding :=
  if TypeText.same present.type symbol.type then .redeclared symbol.name present.line
  else .redeclaredWithType symbol.name present.type present.line

theorem Symbol.on_refusal (symbol present : Symbol) :
    (symbol.refusal present).on symbol.line = symbol.redeclaration present := by
  unfold Symbol.refusal Symbol.redeclaration TypeText.same
  by_cases same : TypeText.normalize present.type = TypeText.normalize symbol.type
  · rw [if_pos same, if_pos (beq_iff_eq.mpr same)]
    rfl
  · rw [if_neg same, if_neg (fun equal => same (beq_iff_eq.mp equal))]
    rfl

theorem Symbol.quotesLine_refusal (symbol present : Symbol) :
    (symbol.refusal present).quotesLine = true := by
  unfold Symbol.refusal
  split
  · rfl
  · rfl

namespace Rule

/-- With the table of a history, a variable is refused exactly if a symbol of its name is in force,
and then the table stays as it is. -/
theorem declareVariable_of_history {history : List Registration} {line : Int} {type name : Text}
    (free : Keyword.isReserved name = false) :
    declareVariable line type name (SymbolTable.registerAll {} history) =
      match inForce name.lower history with
      | some present => (SymbolTable.registerAll {} history,
          [Symbol.refusal ⟨name, type, line, .variable⟩ present])
      | none => ((SymbolTable.registerAll {} history).bind ⟨name, type, line, .variable⟩, []) := by
  simp only [declareVariable, free, Bool.false_eq_true, ↓reduceIte, SymbolTable.define,
    SymbolTable.resolve?_eq_inForce, Symbol.refusal]
  cases inForce name.lower history with
  | none => rfl
  | some present =>
    dsimp only
    split
    · rfl
    · rfl

/-- Of what is found on one variable, the redeclarations are those of its registration. -/
theorem redeclarations_declareVariable (history : List Registration) (line : Int)
    (type name : Text) :
    ((declareVariable line type name (SymbolTable.registerAll {} history)).2.filter
        Finding.quotesLine).map (·.on line) =
      redeclarationsAfter history (definitions line type [name]) := by
  cases free : Keyword.isReserved name with
  | true => simp [declareVariable, definitions, free, Finding.quotesLine, redeclarationsAfter]
  | false =>
    have only : definitions line type [name] = [.definition ⟨name, type, line, .variable⟩] := by
      simp [definitions, free]
    rw [declareVariable_of_history free, only, redeclarationsAfter, redeclarationsAfter,
      List.append_nil, redeclarationOf]
    cases inForce name.lower history with
    | none => rfl
    | some present =>
      rw [Option.toList_some, List.map_singleton, ← Symbol.on_refusal,
        List.filter_cons_of_pos (Symbol.quotesLine_refusal _ present)]
      rfl

theorem redeclarations_declareVariables (history : List Registration) (line : Int) (type : Text)
    (names : List Text) :
    ((declareVariables line type names (SymbolTable.registerAll {} history)).2.filter
        Finding.quotesLine).map (·.on line) =
      redeclarationsAfter history (definitions line type names) := by
  induction names generalizing history with
  | nil => rfl
  | cons name rest ih =>
    have others := ih (history ++ definitions line type [name])
    rw [SymbolTable.registerAll_append, ← declareVariable_eq] at others
    rw [definitions_cons, redeclarationsAfter_append, ← others, ← redeclarations_declareVariable,
      ← List.map_append, ← List.filter_append]
    rfl

/-- The form of a declaration is no redeclaration. -/
theorem filter_declarationFormFindings (statement : Statement) :
    (declarationFormFindings statement).filter Finding.quotesLine = [] := by
  refine List.filter_eq_nil_iff.mpr (List.forall_mem_append.mpr
    ⟨?_, forall_mem_whenever Bool.false_ne_true⟩)
  split
  · exact List.forall_mem_append.mpr
      ⟨forall_mem_whenever Bool.false_ne_true, forall_mem_whenever Bool.false_ne_true⟩
  · exact List.forall_mem_nil _

end Rule

namespace Statement

theorem definition?_of_mem_constantRegistrations {statement : Statement} :
    ∀ event ∈ statement.constantRegistrations, event.definition? = none := by
  unfold constantRegistrations
  split
  · exact List.forall_mem_map.mpr fun constant _ => rfl
  · exact List.forall_mem_nil _

theorem definition?_of_mem_headerRegistrations {statement : Statement} :
    ∀ event ∈ statement.headerRegistrations, event.definition? = none := by
  have bound : ∀ event ∈ (Rule.parameters statement).map fun parameter =>
      Registration.binding parameter.symbol, event.definition? = none :=
    List.forall_mem_map.mpr fun parameter _ => rfl
  unfold headerRegistrations
  dsimp only
  split
  · exact List.forall_mem_append.mpr ⟨bound, List.forall_mem_map.mpr fun function _ => rfl⟩
  split
  · exact bound
  · exact List.forall_mem_nil _

/-- Of what is found on a declaration, the redeclarations are those of the whole line: nothing that
a line registers after its variables is ever refused. -/
theorem redeclarations_declareFindings (history : List Registration) (statement : Statement) :
    ((Rule.declareFindings statement (SymbolTable.registerAll {} history)).filter
        Finding.quotesLine).map (·.on statement.line) =
      redeclarationsAfter history statement.registrations := by
  rw [registrations, redeclarationsAfter_append, redeclarationsAfter_append,
    redeclarationsAfter_eq_nil definition?_of_mem_constantRegistrations,
    redeclarationsAfter_eq_nil definition?_of_mem_headerRegistrations, List.append_nil,
    List.append_nil, Rule.declareFindings, variableRegistrations]
  split
  · have arrays : ∀ event ∈ statement.array?.toList.map Registration.array,
        event.definition? = none := List.forall_mem_map.mpr fun array _ => rfl
    rw [List.filter_append, Rule.filter_declarationFormFindings, List.append_nil,
      redeclarationsAfter_append, redeclarationsAfter_eq_nil arrays, List.append_nil,
      Rule.declareNames]
    cases Rule.declaredNames? statement with
    | none => rfl
    | some declared => exact Rule.redeclarations_declareVariables ..
  · rfl

end Statement

namespace Check

/-- Only the rules on declarations report redeclarations. -/
theorem filter_findings (config : Config) (line : Line) (state : State) :
    (findings config line state).filter Finding.quotesLine =
      (Rule.declareFindings line.statement state.table).filter Finding.quotesLine :=
  filter_findings_of_topic (fun _ => Finding.topic_of_quotesLine) config line state

/-! ## Whole runs -/

/-- The line pass reports the redeclarations of what the lines register, given the history that led
to its table. -/
theorem redeclarations_reports (config : Config) (lines : List Line) {history : List Registration}
    {state : State} (known : state.table = SymbolTable.registerAll {} history) :
    ((reports config lines state).filter (·.2.quotesLine)).map worded =
      redeclarationsAfter history (registrations lines) := by
  induction lines generalizing history state with
  | nil => rfl
  | cons line rest ih =>
    have next : (advance line.statement state).table =
        SymbolTable.registerAll {} (history ++ line.statement.registrations) := by
      rw [SymbolTable.registerAll_append, ← known, ← Rule.registered_eq]
      rfl
    have here : (((findings config line state).map (line.number, ·)).filter
        (·.2.quotesLine)).map worded =
          redeclarationsAfter history line.statement.registrations := by
      rw [List.filter_map, List.map_map, ← Statement.redeclarations_declareFindings, ← known,
        ← filter_findings config]
      rfl
    rw [reports, List.filter_append, List.map_append, here, ih next, registrations_cons,
      redeclarationsAfter_append]

theorem isRedeclaration_worded (report : Int × Finding) :
    (worded report).isRedeclaration = report.2.quotesLine := by
  rw [Bool.eq_iff_iff, Finding.quotesLine_iff, Diagnostic.isRedeclaration, Bool.or_eq_true,
    beq_iff_eq, beq_iff_eq]
  rfl

/-- In the order of emission, the redeclarations of a check are those of its registrations. -/
theorem filter_emitted (config : Config) (source : Text) :
    (outcome config source).emitted.filter Diagnostic.isRedeclaration =
      redeclarationsAfter [] (registrations (Line.contentOf source)) := by
  cases content : Line.anyContent (Line.ofSource source) with
  | true =>
    have passed := redeclarations_reports config (Line.contentOf source)
      (show State.table {} = SymbolTable.registerAll {} [] from rfl)
    have unclosed : ((after (Line.contentOf source) {}).blocks.unclosed.map fun frame =>
        worded (unmatchedReport frame)).filter Diagnostic.isRedeclaration = [] := by
      refine List.filter_eq_nil_iff.mpr (List.forall_mem_map.mpr fun frame _ => ?_)
      rw [isRedeclaration_worded]
      exact Bool.false_ne_true
    have swept : (Sweep.all (after (Line.contentOf source) {}).table
        ((Line.ofSource source).map Line.statement)).filter Diagnostic.isRedeclaration = [] := by
      refine List.filter_eq_nil_iff.mpr fun diagnostic member quotes => ?_
      obtain ⟨report, rfl, about⟩ := Sweep.about_of_mem_all member
      rw [isRedeclaration_worded] at quotes
      have topic := about.2
      rw [Finding.topic_of_quotesLine quotes] at topic
      cases topic
    rw [emitted_outcome content, List.filter_append, List.filter_append, unclosed, swept,
      List.append_nil, List.append_nil, List.filter_map, ← passed]
    congr 1
    exact List.filter_congr fun report _ => isRedeclaration_worded report
  | false =>
    rw [Line.contentOf_eq_nil_iff.mpr content, outcome, content]
    rfl

/-! ## Single registrations -/

/-- The message of a redeclaration quotes the name first. -/
theorem message_redeclaration (symbol present : Symbol) : ∃ rest : Text,
    (symbol.redeclaration present).message = "Variable '" ++ (symbol.name ++ '\'' :: rest) := by
  rw [← Symbol.on_refusal]
  unfold Symbol.refusal
  split
  · exact ⟨_, Finding.message_redeclared ..⟩
  · exact ⟨_, Finding.message_redeclaredWithType ..⟩

theorem quote_not_mem_constantName {text name : Text}
    (read : Form.constantName.first? text = some name) : '\'' ∉ name := by
  obtain ⟨place, rest, fits⟩ := Form.exists_of_first? read
  simp only [Form.constantName, bind, Option.bind_eq_some_iff] at fits
  obtain ⟨_, -, _, -, ⟨found, _⟩, folded, _, -, same⟩ := fits
  cases same
  intro member
  rcases Form.chars_of_foldedName folded _ member with inside | inside
  · revert inside
    decide
  · revert inside
    decide

/-- No registered symbol of the global scope has a quote in its name. -/
theorem quote_not_mem_of_registered {lines : List Line} {symbol : Symbol}
    (member : symbol ∈ (registrations lines).filterMap Registration.global?) :
    '\'' ∉ symbol.name := by
  have outside : isNameChar '\'' = false := by decide
  obtain ⟨event, present, offered⟩ := List.mem_filterMap.mp member
  obtain ⟨line, -, registers⟩ := exists_registers present
  cases registers with
  | definition declares named free normal =>
    cases offered
    exact not_mem_of_isName named outside
  | constant declares read =>
    cases offered
    exact quote_not_mem_constantName read
  | parameter header number named normal =>
    cases offered
    exact not_mem_of_isName named outside
  | array | function => cases offered

/-- A message on a registered symbol that quotes the name of another is on the same name. -/
theorem name_eq_of_quoted {lines : List Line} {symbol other present : Symbol}
    (member : symbol ∈ (registrations lines).filterMap Registration.global?)
    (otherMember : other ∈ (registrations lines).filterMap Registration.global?)
    (quotes : (other.redeclaration present).message.startsWith
      ("Variable '" ++ symbol.name ++ "' ") = true) : symbol.name = other.name := by
  obtain ⟨tail, message⟩ := List.isPrefixOf_iff_prefix.mp quotes
  obtain ⟨rest, wording⟩ := message_redeclaration other present
  rw [wording, List.append_assoc, List.append_assoc] at message
  -- Neither name contains a quote, so both end where the quotation ends.
  exact (Text.append_cons_inj (quote_not_mem_of_registered member)
    (quote_not_mem_of_registered otherMember) (List.append_cancel_left message)).1

/-- A definition at which a symbol is in force is not the only registration under its name. -/
theorem two_le_countP {earlier : List Registration} {symbol present : Symbol}
    (later : List Registration) (found : inForce symbol.name.lower earlier = some present) :
    2 ≤ ((earlier ++ .definition symbol :: later).filterMap Registration.global?).countP
      (·.hasKey symbol.name.lower) := by
  obtain ⟨member, sameKey⟩ := mem_of_inForce found
  have before : 0 < (earlier.filterMap Registration.global?).countP
      (·.hasKey symbol.name.lower) := List.countP_pos_iff.mpr ⟨present, member, sameKey⟩
  have itself : symbol.hasKey symbol.name.lower = true := beq_self_eq_true _
  have offered : (Registration.definition symbol).global? = some symbol := rfl
  rw [List.filterMap_append, List.filterMap_cons_some offered, List.countP_append,
    List.countP_cons_of_pos itself]
  omega

/-- Redeclarations follow the history of registrations. What is emitted about them is the list of
those of the registrations, in order. At each definition the symbol in force decides: if there is
one, the table stays as it is and the definition is reported, and otherwise the symbol is bound and
nothing is said. Nothing else is reported, and never a name that is registered once. -/
theorem redeclarations_follow_history {config : Config} {source : Text} {check : Check}
    (ran : run config source = .ok check) :
    let events := registrations (Line.contentOf source)
    check.emitted.filter Diagnostic.isRedeclaration = redeclarationsAfter [] events ∧
    check.state.table = SymbolTable.registerAll {} events ∧
    (∀ earlier symbol later, events = earlier ++ .definition symbol :: later →
      let table := SymbolTable.registerAll {} earlier
      let step := Rule.declareVariable symbol.line symbol.type symbol.name table
      (∀ present, inForce symbol.name.lower earlier = some present →
        step.1 = table ∧ step.2.map (·.on symbol.line) = [symbol.redeclaration present] ∧
          symbol.redeclaration present ∈ check.diagnostics) ∧
      (inForce symbol.name.lower earlier = none → step = (table.bind symbol, []))) ∧
    (∀ diagnostic ∈ check.diagnostics, diagnostic.isRedeclaration = true →
      ∃ earlier symbol later present, events = earlier ++ .definition symbol :: later ∧
        inForce symbol.name.lower earlier = some present ∧
        diagnostic = symbol.redeclaration present) ∧
    ∀ symbol ∈ events.filterMap Registration.global?,
      (events.filterMap Registration.global?).countP (·.hasKey symbol.name.lower) = 1 →
      ∀ diagnostic ∈ check.diagnostics, diagnostic.isRedeclaration = true →
        diagnostic.message.startsWith ("Variable '" ++ symbol.name ++ "' ") = false := by
  obtain ⟨rfl, -⟩ := run_eq_ok ran
  intro events
  have listed : ∀ diagnostic, diagnostic ∈ redeclarationsAfter [] events ↔
      diagnostic ∈ (outcome config source).diagnostics ∧ diagnostic.isRedeclaration = true := by
    intro diagnostic
    rw [← filter_emitted config, List.mem_filter, mem_diagnostics_iff]
  have accounted : ∀ diagnostic ∈ (outcome config source).diagnostics,
      diagnostic.isRedeclaration = true →
        ∃ earlier symbol later present, events = earlier ++ .definition symbol :: later ∧
          inForce symbol.name.lower earlier = some present ∧
          diagnostic = symbol.redeclaration present :=
    fun diagnostic member about =>
      mem_redeclarationsAfter_iff.mp ((listed diagnostic).mpr ⟨member, about⟩)
  refine ⟨filter_emitted config source, ?_, ?_, accounted, ?_⟩
  · rw [state_outcome, after_table]
  · intro earlier symbol later cut
    have member : Registration.definition symbol ∈ events := by
      rw [cut]
      exact List.mem_append_right _ List.mem_cons_self
    obtain ⟨line, -, registers⟩ := exists_registers member
    cases registers with
    | definition declares named free normal =>
      dsimp only
      rw [Rule.declareVariable_of_history free]
      constructor
      · intro present found
        rw [found]
        refine ⟨rfl, congrArg (List.cons · []) (Symbol.on_refusal ⟨_, _, _, _⟩ present), ?_⟩
        exact ((listed _).mp (mem_redeclarationsAfter_iff.mpr
          ⟨earlier, _, later, present, cut, found, rfl⟩)).1
      · intro absent
        rw [absent]
  · intro symbol member once diagnostic present about
    obtain ⟨earlier, other, later, inPlace, cut, found, rfl⟩ := accounted diagnostic present about
    refine Bool.eq_false_iff.mpr fun quotes => ?_
    have otherMember : other ∈ events.filterMap Registration.global? := by
      rw [cut]
      exact List.mem_filterMap.mpr
        ⟨_, List.mem_append_right _ List.mem_cons_self, rfl⟩
    have several := two_le_countP later found
    rw [← cut, ← name_eq_of_quoted member otherMember quotes] at several
    omega

/-- The second name of the first line yields to the first one, the constant replaces both, and the
last declaration is compared with the constant. The name that is registered once is not reported. -/
theorem redeclaration_after_constant :
    let source : Text := "DECLARE a, A, b : REAL\nCONSTANT a = 1\nDECLARE a : REAL"
    ∃ check, run {} source = .ok check ∧
      check.emitted.filter Diagnostic.isRedeclaration =
        [⟨1, "Variable 'A' already declared on line 1", .warning, "W031"⟩,
          ⟨3, "Variable 'a' redeclared with different type. " ++
            "Previously declared as CONSTANT on line 2", .error, "E031"⟩] ∧
      check.state.table = SymbolTable.registerAll {} (registrations (Line.contentOf source)) ∧
      ∀ diagnostic ∈ check.diagnostics, diagnostic.isRedeclaration = true →
        diagnostic.message.startsWith ("Variable '" ++ "b" ++ "' ") = false := by
  intro source
  let events := registrations (Line.contentOf source)
  have facts : (run {} source).isOk = true ∧
      redeclarationsAfter [] events =
        [⟨1, "Variable 'A' already declared on line 1", .warning, "W031"⟩,
          ⟨3, "Variable 'a' redeclared with different type. " ++
            "Previously declared as CONSTANT on line 2", .error, "E031"⟩] ∧
      ⟨"b", "REAL", 1, .variable⟩ ∈ events.filterMap Registration.global? ∧
      (events.filterMap Registration.global?).countP (·.hasKey (Text.lower "b")) = 1 := by
    decide +kernel
  obtain ⟨returns, expected, member, once⟩ := facts
  have ran := run_of_isOk {} source returns
  obtain ⟨listed, table, -, -, single⟩ := redeclarations_follow_history ran
  exact ⟨_, ran, listed.trans expected, table, single _ member once⟩

end Check

end PseudoLint
