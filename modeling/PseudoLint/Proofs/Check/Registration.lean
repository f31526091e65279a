import PseudoLint.Proofs.Check.Run
import PseudoLint.Proofs.SymbolTable.Registration

/-! # What a source registers

The registrations of a line are read off its statement alone: they do not depend on what is already
known. The table after some lines is the table before them with all their registrations in order, so
every fact about histories of symbol tables is a fact about checks.
-/

namespace PseudoLint

/-- The definitions of variables of one type; reserved words define nothing. -/
def definitions (line : Int) (type : Text) (names : List Text) : List Registration :=
  (names.filter (!Keyword.isReserved ·)).map fun name => .definition ⟨name, type, line, .variable⟩

theorem definitions_cons (line : Int) (type name : Text) (rest : List Text) :
    definitions line type (name :: rest) =
      definitions line type [name] ++ definitions line type rest := by
  simp only [definitions, ← List.map_append, ← List.filter_append, List.singleton_append]

namespace Statement

/-- The registrations of a declaration of variables: the variables, then the array. -/
def variableRegistrations (statement : Statement) : List Registration :=
  if statement.startsWith "DECLARE" then
    (Rule.declaredNames? statement).elim [] (fun declared =>
      definitions statement.line declared.2 declared.1) ++ statement.array?.toList.map .array
  else []

/-- The registration of a declaration of a constant. -/
def constantRegistrations (statement : Statement) : List Registration :=
  if statement.startsWith "CONSTANT" then
    (Rule.declaredConstant? statement).toList.map .binding
  else []

/-- The registrations of a header: the parameters, then the function. -/
def headerRegistrations (statement : Statement) : List Registration :=
  let parameters := (Rule.parameters statement).map fun parameter => .binding parameter.symbol
  if statement.firstWord == "FUNCTION" then
    parameters ++ (Rule.declaredFunction? statement).toList.map .function
  else if statement.firstWord == "PROCEDURE" then parameters
  else []

/-- Everything that a line registers, in order. -/
def registrations (statement : Statement) : List Registration :=
  statement.variableRegistrations ++ statement.constantRegistrations ++
    statement.headerRegistrations

/-- The symbols that a line offers to the global scope: declared variables, constants and
parameters. -/
def globals (statement : Statement) : List Symbol :=
  statement.registrations.filterMap Registration.global?

end Statement

namespace Rule

theorem declareVariable_eq (line : Int) (type name : Text) (table : SymbolTable) :
    (declareVariable line type name table).1 =
      table.registerAll (definitions line type [name]) := by
  unfold declareVariable definitions
  by_cases reserved : Keyword.isReserved name = true
  · simp [reserved]
  · simp only [reserved, Bool.false_eq_true, ↓reduceIte, Bool.not_false, List.filter_cons_of_pos,
      List.filter_nil, List.map_cons, List.map_nil, SymbolTable.registerAll_cons,
      SymbolTable.registerAll_nil, SymbolTable.register]
    split
    · rename_i defined
      rw [defined]
      rfl
    · rename_i refused
      rw [refused]
      split <;> rfl

theorem declareVariables_eq (line : Int) (type : Text) (names : List Text) (table : SymbolTable) :
    (declareVariables line type names table).1 =
      table.registerAll (definitions line type names) := by
  induction names generalizing table with
  | nil => rfl
  | cons name rest ih =>
    rw [definitions_cons, SymbolTable.registerAll_append, ← declareVariable_eq]
    exact ih _

theorem declareTable_eq (statement : Statement) (table : SymbolTable) :
    declareTable statement table = table.registerAll statement.variableRegistrations := by
  have named : (declareNames statement table).1 = table.registerAll
      ((declaredNames? statement).elim [] fun declared =>
        definitions statement.line declared.2 declared.1) := by
    unfold declareNames
    cases declaredNames? statement with
    | none => rfl
    | some declared => exact declareVariables_eq ..
  unfold declareTable Statement.variableRegistrations
  split
  · rw [SymbolTable.registerAll_append, ← named]
    cases statement.array? <;> rfl
  · rfl

theorem constantTable_eq (statement : Statement) (table : SymbolTable) :
    constantTable statement table = table.registerAll statement.constantRegistrations := by
  unfold constantTable Statement.constantRegistrations
  split
  · cases declaredConstant? statement <;> rfl
  · rfl

theorem bindParameters_eq (parameters : List Parameter) (table : SymbolTable) :
    bindParameters parameters table =
      table.registerAll (parameters.map fun parameter => .binding parameter.symbol) := by
  rw [SymbolTable.registerAll, List.foldl_map]
  rfl

theorem subprogramTable_eq (statement : Statement) (table : SymbolTable) :
    subprogramTable statement table = table.registerAll statement.headerRegistrations := by
  unfold subprogramTable Statement.headerRegistrations
  dsimp only
  split
  · rw [SymbolTable.registerAll_append, ← bindParameters_eq]
    cases declaredFunction? statement <;> rfl
  split
  · exact bindParameters_eq ..
  · rfl

theorem registered_eq (statement : Statement) (table : SymbolTable) :
    registered statement table = table.registerAll statement.registrations := by
  simp only [registered, subprogramTable_eq, constantTable_eq, declareTable_eq,
    Statement.registrations, SymbolTable.registerAll_append]

end Rule

/-! ## Lines of registered symbols -/

theorem line_of_mem_parameters {statement : Statement} :
    ∀ parameter ∈ Rule.parameters statement, parameter.line = statement.line := by
  intro parameter member
  unfold Rule.parameters at member
  split at member
  · obtain ⟨text, -, read⟩ := List.mem_filterMap.mp member
    unfold Rule.parameter? at read
    dsimp only at read
    -- Whichever way a parameter is read, it is given the line of its header.
    repeat' split at read
    all_goals cases read
    all_goals rfl
  · cases member

namespace Statement

theorem line_of_mem_variableRegistrations {statement : Statement} :
    ∀ registration ∈ statement.variableRegistrations, registration.line = statement.line := by
  unfold variableRegistrations
  split
  · refine List.forall_mem_append.mpr ⟨?_, ?_⟩
    · cases Rule.declaredNames? statement with
      | none => exact List.forall_mem_nil _
      | some declared => exact List.forall_mem_map.mpr fun name _ => rfl
    · refine List.forall_mem_map.mpr fun array found => ?_
      obtain ⟨bounds, -, rfl⟩ := Option.map_eq_some_iff.mp (Option.mem_toList.mp found)
      rfl
  · exact List.forall_mem_nil _

theorem line_of_mem_constantRegistrations {statement : Statement} :
    ∀ registration ∈ statement.constantRegistrations, registration.line = statement.line := by
  unfold constantRegistrations
  split
  · refine List.forall_mem_map.mpr fun constant found => ?_
    obtain ⟨name, -, rfl⟩ := Option.map_eq_some_iff.mp (Option.mem_toList.mp found)
    rfl
  · exact List.forall_mem_nil _

theorem line_of_mem_headerRegistrations {statement : Statement} :
    ∀ registration ∈ statement.headerRegistrations, registration.line = statement.line := by
  have bound : ∀ registration ∈ (Rule.parameters statement).map fun parameter =>
      Registration.binding parameter.symbol, registration.line = statement.line :=
    List.forall_mem_map.mpr line_of_mem_parameters
  unfold headerRegistrations
  dsimp only
  split
  · refine List.forall_mem_append.mpr ⟨bound, List.forall_mem_map.mpr fun function found => ?_⟩
    obtain ⟨name, -, rfl⟩ := Option.map_eq_some_iff.mp (Option.mem_toList.mp found)
    rfl
  split
  · exact bound
  · exact List.forall_mem_nil _

/-- What a line registers carries its number. -/
theorem line_of_mem_registrations {statement : Statement} :
    ∀ registration ∈ statement.registrations, registration.line = statement.line :=
  List.forall_mem_append.mpr ⟨List.forall_mem_append.mpr
    ⟨line_of_mem_variableRegistrations, line_of_mem_constantRegistrations⟩,
    line_of_mem_headerRegistrations⟩

theorem line_of_mem_globals {statement : Statement} {symbol : Symbol}
    (member : symbol ∈ statement.globals) : symbol.line = statement.line := by
  obtain ⟨registration, present, offered⟩ := List.mem_filterMap.mp member
  rw [← line_of_mem_registrations registration present]
  exact Registration.line_of_global? offered

end Statement

/-! ## Runs -/

namespace Check

/-- What some lines register, in order. -/
def registrations (lines : List Line) : List Registration :=
  lines.flatMap (·.statement.registrations)

theorem after_append (first second : List Line) (state : State) :
    after (first ++ second) state = after second (after first state) :=
  List.foldl_append

theorem registrations_cons (line : Line) (rest : List Line) :
    registrations (line :: rest) = line.statement.registrations ++ registrations rest :=
  List.flatMap_cons

/-- The table after some lines is the table before them with their registrations. -/
theorem after_table (lines : List Line) (state : State) :
    (after lines state).table = state.table.registerAll (registrations lines) := by
  induction lines generalizing state with
  | nil => rfl
  | cons line rest ih =>
    rw [after_cons, ih, registrations_cons, SymbolTable.registerAll_append, ← Rule.registered_eq]
    rfl

theorem filterMap_global?_registrations (lines : List Line) :
    (registrations lines).filterMap Registration.global? = lines.flatMap (·.statement.globals) := by
  simp only [registrations, List.filterMap_flatMap, Statement.globals]

theorem keyed_after (lines : List Line) : (after lines {}).table.Keyed := by
  rw [after_table]
  exact SymbolTable.keyed_empty.registerAll _

theorem extends_after (lines : List Line) (state : State) :
    state.table.Extends (after lines state).table := by
  rw [after_table]
  exact SymbolTable.extends_registerAll ..

end Check

end PseudoLint
