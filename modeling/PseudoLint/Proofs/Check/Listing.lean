import PseudoLint.Proofs.Check.Growth
import PseudoLint.Proofs.Check.Undeclared
import PseudoLint.Proofs.TypeText

/-! # The listed symbols

What a line can register is decided by its text: the five kinds of registration each have a first
word and a shape of names and types (`Registers`). Every symbol of the final table was registered by
a line of the source, so whatever is listed has the shape of its kind and the number of a line that
declares such things. A header binds its parameters before it records the function, and no name is
ever removed from the global scope, so the parameters of a recorded function are listed there.
-/

namespace PseudoLint

namespace Statement

/-- What a line can register, with the shape that its text gives to it. -/
inductive Registers (statement : Statement) : Registration → Prop
  | definition {name type : Text} (declares : statement.startsWith "DECLARE" = true)
      (named : isName name = true) (free : Keyword.isReserved name = false)
      (normal : TypeText.normalize type = type) :
      Registers statement (.definition ⟨name, type, statement.line, .variable⟩)
  | array {array : ArraySymbol} (declares : statement.startsWith "DECLARE" = true)
      (line : array.line = statement.line) : Registers statement (.array array)
  | constant {name : Text} (declares : statement.startsWith "CONSTANT" = true)
      (read : Form.constantName.first? statement.text = some name) :
      Registers statement (.binding ⟨name, TypeText.constant, statement.line, .constant⟩)
  | parameter {parameter : Parameter}
      (header : statement.firstWord = "FUNCTION" ∨ statement.firstWord = "PROCEDURE")
      (line : parameter.line = statement.line) (named : isName parameter.name = true)
      (normal : TypeText.normalize parameter.type = parameter.type) :
      Registers statement (.binding parameter.symbol)
  | function {name type : Text} (header : statement.firstWord = "FUNCTION") :
      Registers statement
        (.function ⟨name, type, statement.line, .function (Rule.parameters statement)⟩)

/-- The names of a declaration are names and its type is normal. -/
theorem shape_of_declaredNames {statement : Statement} {names : List Text} {type : Text}
    (declared : Rule.declaredNames? statement = some (names, type)) :
    (∀ name ∈ names, isName name = true) ∧ TypeText.normalize type = type := by
  refine ⟨Rule.isName_of_mem_declaredNames declared, ?_⟩
  unfold Rule.declaredNames? at declared
  split at declared
  · cases declared
    exact TypeText.normalize_normalize _
  · cases declared

/-- A parameter has a name and a normal type. -/
theorem shape_of_mem_parameters {statement : Statement} :
    ∀ parameter ∈ Rule.parameters statement,
      isName parameter.name = true ∧ TypeText.normalize parameter.type = parameter.type := by
  have shape : ∀ {name type : Text} {byReference : Bool} {parameter : Parameter},
      (if isName name = true then
        some ⟨name, TypeText.normalize type, statement.line, byReference⟩ else none) =
          some parameter →
      isName parameter.name = true ∧ TypeText.normalize parameter.type = parameter.type := by
    intro name type byReference parameter read
    split at read
    · rename_i named
      cases read
      exact ⟨named, TypeText.normalize_normalize type⟩
    · cases read
  intro parameter member
  unfold Rule.parameters at member
  split at member
  · obtain ⟨text, -, read⟩ := List.mem_filterMap.mp member
    unfold Rule.parameter? at read
    dsimp only at read
    split at read
    · split at read
      · exact shape read
      · split at read
        · exact shape read
        split at read
        · exact shape read
        · cases read
      · cases read
    · cases read
  · cases member

theorem registers_of_mem_variableRegistrations {statement : Statement} :
    ∀ registration ∈ statement.variableRegistrations, statement.Registers registration := by
  unfold variableRegistrations
  split
  · rename_i declares
    refine List.forall_mem_append.mpr ⟨?_, List.forall_mem_map.mpr fun array found => ?_⟩
    · cases declared : Rule.declaredNames? statement with
      | none => exact List.forall_mem_nil _
      | some pair =>
        obtain ⟨names, type⟩ := pair
        obtain ⟨named, normal⟩ := shape_of_declaredNames declared
        refine List.forall_mem_map.mpr fun name member => ?_
        obtain ⟨present, free⟩ := List.mem_filter.mp member
        exact .definition declares (named name present) ((Bool.not_eq_true' _).mp free) normal
    · obtain ⟨bounds, -, rfl⟩ := Option.map_eq_some_iff.mp (Option.mem_toList.mp found)
      exact .array declares rfl
  · exact List.forall_mem_nil _

theorem registers_of_mem_constantRegistrations {statement : Statement} :
    ∀ registration ∈ statement.constantRegistrations, statement.Registers registration := by
  unfold constantRegistrations
  split
  · rename_i declares
    refine List.forall_mem_map.mpr fun constant found => ?_
    obtain ⟨name, read, rfl⟩ := Option.map_eq_some_iff.mp (Option.mem_toList.mp found)
    exact .constant declares read
  · exact List.forall_mem_nil _

theorem registers_of_mem_headerRegistrations {statement : Statement} :
    ∀ registration ∈ statement.headerRegistrations, statement.Registers registration := by
  have bound (header : statement.firstWord = "FUNCTION" ∨ statement.firstWord = "PROCEDURE") :
      ∀ registration ∈ (Rule.parameters statement).map fun parameter =>
        Registration.binding parameter.symbol, statement.Registers registration := by
    refine List.forall_mem_map.mpr fun parameter member => ?_
    obtain ⟨named, normal⟩ := shape_of_mem_parameters parameter member
    exact .parameter header (line_of_mem_parameters parameter member) named normal
  unfold headerRegistrations
  dsimp only
  split
  · rename_i header
    have header := beq_iff_eq.mp header
    refine List.forall_mem_append.mpr ⟨bound (.inl header), ?_⟩
    refine List.forall_mem_map.mpr fun function found => ?_
    obtain ⟨name, -, rfl⟩ := Option.map_eq_some_iff.mp (Option.mem_toList.mp found)
    exact .function header
  split
  · rename_i header
    exact bound (.inr (beq_iff_eq.mp header))
  · exact List.forall_mem_nil _

theorem registers_of_mem_registrations {statement : Statement} :
    ∀ registration ∈ statement.registrations, statement.Registers registration :=
  List.forall_mem_append.mpr ⟨List.forall_mem_append.mpr
    ⟨registers_of_mem_variableRegistrations, registers_of_mem_constantRegistrations⟩,
    registers_of_mem_headerRegistrations⟩

/-- A header that records a function offers its parameters to the global scope. -/
theorem mem_globals_of_mem_parameters {statement : Statement} {parameter : Parameter}
    (header : statement.firstWord = "FUNCTION") (member : parameter ∈ Rule.parameters statement) :
    parameter.symbol ∈ statement.globals := by
  refine List.mem_filterMap.mpr ⟨.binding parameter.symbol, List.mem_append_right _ ?_, rfl⟩
  rw [headerRegistrations, if_pos (beq_iff_eq.mpr header)]
  exact List.mem_append_left _ (List.mem_map_of_mem member)

end Statement

/-! ## Scopes -/

namespace SymbolTable

theorem Distinct.nodup_keysIn {table : SymbolTable} (distinct : table.Distinct)
    (keyed : table.Keyed) (scope : Text) : (Listing.keysIn scope table.listing).Nodup := by
  rw [keyed.keysIn_listing]
  -- The three titles differ, so at most one scope contributes.
  by_cases global : ("GLOBAL __global__" : Text) = scope
  · subst global
    simpa using distinct.globals
  by_cases function : ("FUNCTIONS" : Text) = scope
  · subst function
    simpa using distinct.functions
  by_cases array : ("ARRAYS" : Text) = scope
  · subst array
    simpa using distinct.arrays
  · simp only [if_neg global, if_neg function, if_neg array]
    exact .nil

end SymbolTable

namespace Check

/-! ## Entries of the final table -/

variable {lines : List Line}

theorem exists_registers {registration : Registration}
    (member : registration ∈ registrations lines) :
    ∃ line ∈ lines, line.statement.Registers registration := by
  obtain ⟨line, present, registered⟩ := List.mem_flatMap.mp member
  exact ⟨line, present, Statement.registers_of_mem_registrations registration registered⟩

/-- What stands in a part of the final table was offered to it by a line. -/
theorem registers_of_mem {α : Type} {part : SymbolTable → Registry α}
    {offer? : Registration → Option α} (empty : part {} = [])
    (step : ∀ (table : SymbolTable) (event : Registration) (entry : Text × α),
      entry ∈ part (table.register event) → entry ∈ part table ∨ offer? event = some entry.2)
    {entry : Text × α} (member : entry ∈ part (after lines {}).table) :
    ∃ line ∈ lines, ∃ registration, line.statement.Registers registration ∧
      offer? registration = some entry.2 := by
  rw [after_table] at member
  rcases SymbolTable.origin_registerAll _ _ step member with
    before | ⟨registration, present, offered⟩
  · rw [show part ({} : State).table = [] from empty] at before
    cases before
  · obtain ⟨line, listed, registers⟩ := exists_registers present
    exact ⟨line, listed, registration, registers, offered⟩

theorem header_of_mem_functions {entry : Text × Symbol}
    (member : entry ∈ (after lines {}).table.functions) :
    ∃ line ∈ lines, line.statement.Registers (.function entry.2) := by
  obtain ⟨line, present, registration, registers, offered⟩ :=
    registers_of_mem rfl (fun _ _ _ => SymbolTable.overwrites_functions.mem_register) member
  cases registration with
  | function => exact ⟨line, present, Option.some.inj offered ▸ registers⟩
  | definition | binding | array => cases offered

/-! ## The listing -/

/-- A content line of a source with a number and a property of its statement. -/
def ContentLine (source : Text) (number : Int) (property : Statement → Prop) : Prop :=
  ∃ line ∈ Line.contentOf source, line.number = number ∧ property line.statement

/-- The shape of a listed symbol of the global scope: a variable, a constant or a parameter. -/
def GlobalShape (source : Text) (entry : ListingEntry) : Prop :=
  (entry.kind = "var" ∧ isName entry.name = true ∧ Keyword.isReserved entry.name = false ∧
      TypeText.normalize entry.type = entry.type ∧
      ContentLine source entry.line (·.startsWith "DECLARE" = true)) ∨
    (entry.kind = "const" ∧ entry.type = "CONSTANT" ∧
      ContentLine source entry.line (·.startsWith "CONSTANT" = true)) ∨
    (entry.kind = "param" ∧ isName entry.name = true ∧
      TypeText.normalize entry.type = entry.type ∧
      ContentLine source entry.line fun statement =>
        statement.firstWord = "FUNCTION" ∨ statement.firstWord = "PROCEDURE")

theorem globalShape_of_registers {source : Text} {line : Line} {registration : Registration}
    {symbol : Symbol} (present : line ∈ Line.contentOf source)
    (registers : line.statement.Registers registration)
    (offered : registration.global? = some symbol) : GlobalShape source symbol.entry := by
  cases registers with
  | definition declares named free normal =>
    cases offered
    exact .inl ⟨rfl, named, free, normal, line, present, rfl, declares⟩
  | constant declares read =>
    cases offered
    exact .inr (.inl ⟨rfl, rfl, line, present, rfl, declares⟩)
  | parameter header number named normal =>
    cases offered
    exact .inr (.inr ⟨rfl, named, normal, line, present, number.symm, header⟩)
  | array | function => cases offered

/-- The listing of a source with content is well formed: no scope lists a name twice, each entry has
the shape of its kind and the number of a line that declares such things, and the parameters of the
recorded functions are listed in the global scope. -/
theorem listing_well_formed {config : Config} {source : Text} {check : Check}
    (content : Line.anyContent (Line.ofSource source) = true)
    (ran : run config source = .ok check) :
    (∀ scope : Text, (Listing.keysIn scope check.symbols).Nodup) ∧
    (∀ entry ∈ Listing.entriesIn "GLOBAL __global__" check.symbols, GlobalShape source entry) ∧
    (∀ entry ∈ Listing.entriesIn "FUNCTIONS" check.symbols,
      entry.kind = "func" ∧ ContentLine source entry.line (·.firstWord = "FUNCTION")) ∧
    (∀ entry ∈ Listing.entriesIn "ARRAYS" check.symbols,
      entry.kind = "array" ∧ ContentLine source entry.line (·.startsWith "DECLARE" = true)) ∧
    ∀ function ∈ check.state.table.functions.values, ∃ parameters : List Parameter,
      function.kind = .function parameters ∧ ∀ parameter ∈ parameters,
        parameter.name.lower ∈ Listing.keysIn "GLOBAL __global__" check.symbols := by
  obtain ⟨rfl, -⟩ := run_eq_ok ran
  have keyed := keyed_after (Line.contentOf source)
  refine ⟨?_, ?_, ?_, ?_, ?_⟩
  · intro scope
    have distinct : (after (Line.contentOf source) {}).table.Distinct := by
      rw [after_table]
      exact SymbolTable.distinct_empty.registerAll _
    rw [symbols_outcome content]
    exact distinct.nodup_keysIn keyed scope
  · intro entry member
    obtain ⟨stored, held, rfl⟩ := mem_globals_of_mem_symbols content member
    obtain ⟨line, present, registration, registers, offered⟩ :=
      registers_of_mem rfl (fun _ _ _ => SymbolTable.mem_globals_register) held
    exact globalShape_of_registers present registers offered
  · intro entry member
    rcases stored_of_mem_symbols content member with
      ⟨other, -⟩ | ⟨-, ⟨key, _⟩, held, rfl⟩ | ⟨other, -⟩
    · exact absurd other (by decide)
    · obtain ⟨line, present, registers⟩ := header_of_mem_functions held
      cases registers with
      | function header => exact ⟨rfl, line, present, rfl, header⟩
    · exact absurd other (by decide)
  · intro entry member
    rcases stored_of_mem_symbols content member with
      ⟨other, -⟩ | ⟨other, -⟩ | ⟨-, stored, held, rfl⟩
    · exact absurd other (by decide)
    · exact absurd other (by decide)
    · obtain ⟨line, present, registration, registers, offered⟩ :=
        registers_of_mem rfl (fun _ _ _ => SymbolTable.overwrites_arrays.mem_register) held
      cases registers with
      | array declares number =>
        cases offered
        exact ⟨rfl, line, present, number.symm, declares⟩
      | definition | constant | parameter | function => cases offered
  · intro function listed
    rw [state_outcome] at listed
    obtain ⟨⟨key, _⟩, held, rfl⟩ := List.mem_map.mp listed
    obtain ⟨line, present, registers⟩ := header_of_mem_functions held
    cases registers with
    | function header =>
      refine ⟨Rule.parameters line.statement, rfl, fun parameter member => ?_⟩
      have declared := isDeclared_after {} present
        (Statement.mem_globals_of_mem_parameters header member)
      rw [symbols_outcome content, keyed.keysIn_listing, if_pos rfl]
      exact List.mem_append_left _ (SymbolTable.isDeclared_iff.mp declared)

/-- A source that registers symbols of every kind. The parameter takes the place of the variable of
the same name, and the spaces in the types are normalized. -/
theorem five_kinds_listed :
    let source : Text := "DECLARE n : REAL\nDECLARE Row : ARRAY[1:3]  OF  CHAR\n" ++
      "CONSTANT Rate = 5\nFUNCTION Mean(BYREF N :  INTEGER) RETURNS REAL\nENDFUNCTION"
    Line.anyContent (Line.ofSource source) = true ∧
      ∃ check, run {} source = .ok check ∧
        check.symbols =
          [⟨"GLOBAL __global__", [⟨"N", "param", "INTEGER", 4⟩,
              ⟨"Row", "var", "ARRAY[1:3] OF CHAR", 2⟩, ⟨"Rate", "const", "CONSTANT", 3⟩]⟩,
            ⟨"FUNCTIONS", [⟨"Mean", "func", "REAL", 4⟩]⟩,
            ⟨"ARRAYS", [⟨"Row", "array", "[1:3]", 2⟩]⟩] ∧
        (∀ scope : Text, (Listing.keysIn scope check.symbols).Nodup) ∧
        ∀ entry ∈ Listing.entriesIn "GLOBAL __global__" check.symbols,
          GlobalShape source entry := by
  intro source
  have facts : Line.anyContent (Line.ofSource source) = true ∧ (run {} source).isOk = true ∧
      (outcome {} source).symbols =
        [⟨"GLOBAL __global__", [⟨"N", "param", "INTEGER", 4⟩,
            ⟨"Row", "var", "ARRAY[1:3] OF CHAR", 2⟩, ⟨"Rate", "const", "CONSTANT", 3⟩]⟩,
          ⟨"FUNCTIONS", [⟨"Mean", "func", "REAL", 4⟩]⟩,
          ⟨"ARRAYS", [⟨"Row", "array", "[1:3]", 2⟩]⟩] := by
    decide +kernel
  obtain ⟨content, returns, symbols⟩ := facts
  have ran := run_of_isOk {} source returns
  obtain ⟨distinct, shaped, -⟩ := listing_well_formed content ran
  exact ⟨content, _, ran, symbols, distinct, shaped⟩

end Check

end PseudoLint
