import PseudoLint.Proofs.Check.Registration
import PseudoLint.Proofs.Form.ParameterList
import PseudoLint.Proofs.Literal
import PseudoLint.Proofs.SymbolTable.History

/-! # Headers with parameters

The code of a header is the whole header, since nothing in it is a literal or a comment. So the rule
on subprograms finds the parameters with which the header was written. It binds them in order, each
in place of an earlier symbol of its name, and records them with the function.
-/

namespace PseudoLint

/-- A name in front of a space is the first word of a line that begins with it. -/
theorem Statement.firstWord_append {word : Text} (named : isName word = true) (rest : Text)
    (number : Int) : Statement.firstWord ⟨number, word ++ ' ' :: rest⟩ = word := by
  obtain ⟨nonempty, solid⟩ := isSolid_of_isName named
  have split : (word ++ ' ' :: rest).words = word :: Text.words (' ' :: rest) :=
    Text.runs_append_of_inside nonempty solid (.inr ⟨' ', rest, rfl, by decide⟩)
  rw [Statement.firstWord, Statement.words, split, List.headD_cons]

/-- The header of a function as it is written. -/
def functionHeader (name : Text) (parameters : List WrittenParameter) (result : Text) : Text :=
  headerText "FUNCTION" name parameters (" RETURNS " ++ result)

/-- The header of a procedure as it is written. -/
def procedureHeader (name : Text) (parameters : List WrittenParameter) : Text :=
  headerText "PROCEDURE" name parameters []

/-- What may follow a list of parameters: the header then ends with a character that is not blank,
and nothing begins a literal or a comment. -/
structure HeaderEnding (ending : Text) : Prop where
  last : ∃ before c, ')' :: ending = before ++ [c] ∧ isBlank c = false
  plain : ∀ c ∈ ending, c ∉ ['\'', '"', '/']

theorem headerEnding_nil : HeaderEnding [] where
  last := ⟨[], ')', rfl, by decide⟩
  plain := List.forall_mem_nil _

theorem headerEnding_returns {result : Text} (typed : isName result = true) :
    HeaderEnding (" RETURNS " ++ result) where
  last := by
    obtain ⟨nonempty, solid⟩ := isSolid_of_isName typed
    have split := List.dropLast_concat_getLast nonempty
    refine ⟨')' :: (" RETURNS ".toList ++ result.dropLast), result.getLast nonempty, ?_,
      solid _ (List.getLast_mem nonempty)⟩
    rw [List.cons_append, List.append_assoc, split]
  plain := by
    have fixedPlain : ∀ c ∈ " RETURNS ".toList, c ∉ ['\'', '"', '/'] :=
      List.all_iff_forall_prop.mp (by decide)
    have outside : ∀ c ∈ ['\'', '"', '/'], isNameChar c = false :=
      List.all_iff_forall_prop.mp (by decide)
    intro c member mark
    rcases List.mem_append.mp member with fixed | inName
    · exact fixedPlain c fixed mark
    · exact not_mem_of_isName typed (outside c mark) inName

section

variable {keyword name inside ending : Text} {parameters : List WrittenParameter}

theorem solid_headerAround (subprogram : keyword = "FUNCTION" ∨ keyword = "PROCEDURE")
    (ends : HeaderEnding ending) : Text.Solid (headerAround keyword name inside ending) := by
  constructor
  · rcases subprogram with rfl | rfl
    · exact ⟨'F', _, rfl, by decide⟩
    · exact ⟨'P', _, rfl, by decide⟩
  · obtain ⟨before, c, split, solid⟩ := ends.last
    refine ⟨keyword ++ ' ' :: (name ++ '(' :: (inside ++ before)), c, ?_, solid⟩
    rw [headerAround, split]
    simp only [List.append_assoc, List.cons_append]

/-- Nothing in a header is a literal or a comment if nothing between its parentheses is. -/
theorem leavesPlain_headerAround (subprogram : keyword = "FUNCTION" ∨ keyword = "PROCEDURE")
    (named : isName name = true) (plain : ∀ c ∈ ['\'', '"', '/'], c ∉ inside)
    (ends : HeaderEnding ending) :
    LeavesPlain (headerAround keyword name inside ending)
      (headerAround keyword name inside ending) := by
  have free : ∀ c ∈ ['\'', '"', '/'], c ∉ headerAround keyword name inside ending := by
    intro c mark
    have facts : ∀ d ∈ ['\'', '"', '/'], isNameChar d = false ∧ d ≠ ' ' ∧ d ≠ '(' ∧ d ≠ ')' :=
      List.all_iff_forall_prop.mp (by decide)
    obtain ⟨outside, space, opening, closing⟩ := facts c mark
    have inKeyword : c ∉ keyword := by
      rcases subprogram with rfl | rfl <;> exact not_mem_of_isName (by decide) outside
    simp only [headerAround, List.mem_append, List.mem_cons, not_or]
    exact ⟨inKeyword, space, not_mem_of_isName named outside, opening, plain c mark, closing,
      fun member => ends.plain c member mark⟩
  exact ⟨dropQuoted_of_free (free '"' (by decide)), free '"' (by decide),
    free '\'' (by decide), free '/' (by decide)⟩

theorem firstWord_headerAround (subprogram : keyword = "FUNCTION" ∨ keyword = "PROCEDURE")
    (number : Int) :
    Statement.firstWord ⟨number, headerAround keyword name inside ending⟩ = keyword := by
  have named : isName keyword = true := by rcases subprogram with rfl | rfl <;> decide
  exact Statement.firstWord_append named _ number

/-- A line with a header carries the whole header, as text and as code. -/
theorem statement_headerAround (subprogram : keyword = "FUNCTION" ∨ keyword = "PROCEDURE")
    (ends : HeaderEnding ending) (number : Int) :
    (Line.mk number (headerAround keyword name inside ending)).statement =
      ⟨number, headerAround keyword name inside ending⟩ := by
  rw [Line.statement, (solid_headerAround subprogram ends).trim_eq]

theorem code_headerAround (subprogram : keyword = "FUNCTION" ∨ keyword = "PROCEDURE")
    (named : isName name = true) (plain : ∀ c ∈ ['\'', '"', '/'], c ∉ inside)
    (ends : HeaderEnding ending) (number : Int) :
    Statement.code ⟨number, headerAround keyword name inside ending⟩ =
      headerAround keyword name inside ending :=
  (leavesPlain_headerAround subprogram named plain ends).codeOf_eq.trans
    (solid_headerAround subprogram ends).trim_eq

/-- The rule reads the parameters between the parentheses of a header, piece by piece. -/
theorem parameters_headerAround (subprogram : keyword = "FUNCTION" ∨ keyword = "PROCEDURE")
    (named : isName name = true) (plain : ∀ c ∈ ['\'', '"', '/'], c ∉ inside)
    (unclosed : ')' ∉ inside) (ends : HeaderEnding ending) (number : Int) :
    Rule.parameters ⟨number, headerAround keyword name inside ending⟩ =
      (inside.splitOn ',').filterMap (Rule.parameter? number) := by
  have found : Form.parameterList.first? (headerAround keyword name inside ending) =
      some inside :=
    Form.first?_of_fits (solid_headerAround subprogram ends).ne_nil
      (parameterList_headerAround subprogram named unclosed)
  rw [Rule.parameters, code_headerAround subprogram named plain ends, found]

theorem plain_parameterText : ∀ c ∈ ['\'', '"', '/'], c ∉ parameterText parameters := by
  have marks : ∀ d ∈ ['\'', '"', '/'], d ∈ ['(', ')', '\'', '"', '/', '\n'] :=
    List.all_iff_forall_prop.mp (by decide)
  exact fun c mark => not_mem_parameterText (marks c mark)

/-- The rule finds the parameters with which a header is written. -/
theorem parameters_headerText (subprogram : keyword = "FUNCTION" ∨ keyword = "PROCEDURE")
    (named : isName name = true) (ends : HeaderEnding ending) (nonempty : parameters ≠ [])
    (number : Int) :
    Rule.parameters ⟨number, headerText keyword name parameters ending⟩ =
      parameters.map (·.parameter number) := by
  rw [headerText_eq, parameters_headerAround subprogram named plain_parameterText
    (not_mem_parameterText (by decide)) ends]
  exact filterMap_parameter?_splitOn nonempty number

end

/-! ## Bound parameters -/

namespace SymbolTable

/-- Of the parameters of one name the last one is bound. -/
theorem resolve?_bindParameters (parameters : List Parameter) (table : SymbolTable) (name : Text) :
    (Rule.bindParameters parameters table).resolve? name =
      ((parameters.reverse.find? (·.name.lower == name.lower)).map Parameter.symbol).or
        (table.resolve? name) := by
  induction parameters generalizing table with
  | nil => rfl
  | cons parameter rest ih =>
    have bound : Rule.bindParameters (parameter :: rest) table =
        Rule.bindParameters rest (table.bind parameter.symbol) :=
      rfl
    have keys : parameter.symbol.hasKey name.lower = (parameter.name.lower == name.lower) := rfl
    rw [bound, ih, resolve?_bind, keys, List.reverse_cons, List.find?_append, List.find?_singleton,
      Option.map_or, Option.or_assoc]
    cases parameter.name.lower == name.lower <;> rfl

theorem isDeclared_bindParameters {parameters : List Parameter} {parameter : Parameter}
    (member : parameter ∈ parameters) (table : SymbolTable) :
    (Rule.bindParameters parameters table).isDeclared parameter.name = true := by
  have found : (parameters.reverse.find? (·.name.lower == parameter.name.lower)).isSome = true :=
    List.find?_isSome.mpr ⟨parameter, List.mem_reverse.mpr member, beq_self_eq_true _⟩
  rw [isDeclared, resolve?_bindParameters, Option.isSome_or, Option.isSome_map, found,
    Bool.true_or]

/-- Parameters are bound in the global scope only. -/
theorem bindParameters_registries (parameters : List Parameter) (table : SymbolTable) :
    (Rule.bindParameters parameters table).functions = table.functions ∧
      (Rule.bindParameters parameters table).arrays = table.arrays := by
  induction parameters generalizing table with
  | nil => exact ⟨rfl, rfl⟩
  | cons parameter rest ih => exact ih (table.bind parameter.symbol)

theorem function?_declareFunction (table : SymbolTable) (function : Symbol) :
    (table.declareFunction function).function? function.name = some function := by
  rw [function?, declareFunction, Registry.get?_put, if_pos rfl]

end SymbolTable

namespace Rule

section

variable (config : Config) (state : State) (number : Int) {name result : Text}
  {parameters : List WrittenParameter}

theorem isSome_returnType? (named : isName name = true) (typed : isName result = true) :
    (returnType? ⟨number, functionHeader name parameters result⟩).isSome = true := by
  have letters : ∀ c ∈ "RETURNS".toList, isWordChar c = true :=
    List.all_iff_forall_prop.mp (by decide)
  have between : isWordChar ' ' = false := by decide
  -- The word stands between two spaces.
  have split : functionHeader name parameters result =
      ("FUNCTION " ++ (name ++ '(' :: (parameterText parameters ++ [')']))) ++
        ' ' :: ("RETURNS" ++ ' ' :: result) := by
    unfold functionHeader headerText
    repeat rw [String.toList_ofList]
    simp only [List.append_assoc, List.cons_append, List.nil_append]
  have present : "RETURNS".toList ∈ wordRuns (functionHeader name parameters result) := by
    rw [split, wordRuns_append_cons between, wordRuns_append_cons between,
      wordRuns_of_word (by decide) letters]
    exact List.mem_append_right _ (List.mem_append_left _ List.mem_cons_self)
  have found : hasWord "RETURNS" (functionHeader name parameters result) = true :=
    (hasWord_iff (by decide) letters).mpr present
  rw [returnType?, functionHeader, headerText_eq, code_headerAround (.inl rfl) named
    plain_parameterText (headerEnding_returns typed), Option.isSome_map]
  exact found

theorem subprogram_functionHeader (nonempty : parameters ≠ []) (named : isName name = true)
    (typed : isName result = true) :
    ∃ type, subprogram config (Line.mk number (functionHeader name parameters result)).statement
        state =
      .ok ({ state with
        table := (bindParameters (parameters.map (·.parameter number)) state.table).declareFunction
          ⟨name, type, number, .function (parameters.map (·.parameter number))⟩ }, []) := by
  have ends := headerEnding_returns typed
  have returns : (returnType? ⟨number, functionHeader name parameters result⟩).isNone = false := by
    rw [← Option.not_isSome, isSome_returnType? number named typed]
    rfl
  have read : Form.functionName.first? (functionHeader name parameters result) =
      Option.some name :=
    Form.first?_of_fits (solid_headerAround (.inl rfl) ends).ne_nil
      (functionName_headerAround named)
  have declared : declaredFunction? ⟨number, functionHeader name parameters result⟩ =
      Option.some ⟨name,
        (returnType? ⟨number, functionHeader name parameters result⟩).getD [], number,
        .function (parameters.map (·.parameter number))⟩ := by
    rw [declaredFunction?, functionHeader, parameters_headerText (.inl rfl) named ends nonempty,
      headerText_eq, code_headerAround (.inl rfl) named plain_parameterText ends, ← headerText_eq,
      ← functionHeader, read]
    rfl
  refine ⟨(returnType? ⟨number, functionHeader name parameters result⟩).getD [], ?_⟩
  rw [functionHeader, headerText_eq, statement_headerAround (.inl rfl) ends, subprogram_eq,
    subprogramTable, subprogramFindings, firstWord_headerAround (.inl rfl),
    if_pos (beq_self_eq_true _), if_pos (beq_self_eq_true _), ← headerText_eq,
    parameters_headerText (.inl rfl) named ends nonempty, ← functionHeader, declared, returns]
  rfl

theorem subprogram_procedureHeader (nonempty : parameters ≠ []) (named : isName name = true) :
    subprogram config (Line.mk number (procedureHeader name parameters)).statement state =
      .ok ({ state with table := bindParameters (parameters.map (·.parameter number)) state.table },
        []) := by
  have ends := headerEnding_nil
  have other : ("PROCEDURE".toList == "FUNCTION".toList) = false := by decide
  rw [procedureHeader, headerText_eq, statement_headerAround (.inr rfl) ends, subprogram_eq,
    subprogramTable, subprogramFindings, firstWord_headerAround (.inr rfl),
    if_neg (Bool.eq_false_iff.mp other), if_neg (Bool.eq_false_iff.mp other),
    if_pos (beq_self_eq_true _), ← headerText_eq,
    parameters_headerText (.inr rfl) named ends nonempty]

end

/-- Whatever is known before, the header of a function records the function with the parameters with
which it is written and declares them all. The header of a procedure binds the same parameters: a
name then means the last parameter of that name or, if there is none, what it meant before. -/
theorem parameters_parse_back (config : Config) (state : State) (number : Int)
    {name result : Text} {parameters : List WrittenParameter} (nonempty : parameters ≠ [])
    (named : isStrictName name = true) (typed : isStrictName result = true) :
    let meant := parameters.map (·.parameter number)
    ∃ called run : SymbolTable,
      subprogram config (Line.mk number (functionHeader name parameters result)).statement state =
          .ok ({ state with table := called }, []) ∧
      (∃ type, called.function? name = Option.some ⟨name, type, number, .function meant⟩) ∧
      (∀ written ∈ parameters, called.isDeclared written.name = true) ∧
      subprogram config (Line.mk number (procedureHeader name parameters)).statement state =
          .ok ({ state with table := run }, []) ∧
      run.globals = called.globals ∧ run.functions = state.table.functions ∧
      run.arrays = state.table.arrays ∧
      ∀ other, run.resolve? other =
        ((meant.reverse.find? (·.name.lower == other.lower)).map Parameter.symbol).or
          (state.table.resolve? other) := by
  intro meant
  obtain ⟨type, function⟩ := subprogram_functionHeader config state number nonempty
    (isName_of_isStrictName named) (isName_of_isStrictName typed)
  obtain ⟨functions, arrays⟩ := SymbolTable.bindParameters_registries meant state.table
  refine ⟨_, _, function, ⟨type, SymbolTable.function?_declareFunction _ _⟩, ?_,
    subprogram_procedureHeader config state number nonempty (isName_of_isStrictName named), rfl,
    functions, arrays, SymbolTable.resolve?_bindParameters meant state.table⟩
  intro written member
  exact SymbolTable.isDeclared_bindParameters (List.mem_map_of_mem member) state.table

/-- A parameter may be called after a passing mode, and of two parameters with names that differ
only in case the second one is bound. -/
theorem parameters_of_one_name_parse_back :
    let parameters : List WrittenParameter :=
      [⟨some ⟨.reference, "ByRef", by decide⟩, "a", by decide, "  ARRAY OF\tCHAR ",
          List.all_iff_forall_prop.mp (by decide)⟩,
        ⟨none, "BYREF", by decide, "REAL", List.all_iff_forall_prop.mp (by decide)⟩,
        ⟨some ⟨.value, "BYVAL", by decide⟩, "A", by decide, "DATE",
          List.all_iff_forall_prop.mp (by decide)⟩]
    let header : Text :=
      "FUNCTION f(ByRef a :   ARRAY OF\tCHAR , BYREF : REAL, BYVAL A : DATE) RETURNS REAL"
    functionHeader "f" parameters "REAL" = header ∧
    ∃ table : SymbolTable, subprogram {} (Line.mk 1 header).statement {} = .ok (⟨table, []⟩, []) ∧
      (∃ type, table.function? "f" = some ⟨"f", type, 1, .function
        [⟨"a", "ARRAY OF CHAR", 1, true⟩, ⟨"BYREF", "REAL", 1, false⟩, ⟨"A", "DATE", 1, false⟩]⟩) ∧
      table.resolve? "a" = some ⟨"A", "DATE", 1, .parameter false⟩ := by
  intro parameters header
  have written : functionHeader "f" parameters "REAL" = header := by decide +kernel
  have meant : parameters.map (·.parameter 1) =
      [⟨"a", "ARRAY OF CHAR", 1, true⟩, ⟨"BYREF", "REAL", 1, false⟩, ⟨"A", "DATE", 1, false⟩] := by
    decide +kernel
  obtain ⟨called, run, ran, function, -, -, globals, -, -, bound⟩ :=
    parameters_parse_back {} {} 1 (List.cons_ne_nil _ _ : parameters ≠ [])
      (show isStrictName "f" = true by decide) (show isStrictName "REAL" = true by decide)
  rw [written] at ran
  rw [meant] at function
  have same : called.resolve? "a" = run.resolve? "a" := by
    rw [SymbolTable.resolve?, ← globals, SymbolTable.resolve?]
  have last := bound "a"
  rw [meant, ← same] at last
  exact ⟨written, called, ran, function, last.trans (by decide +kernel)⟩

end Rule

end PseudoLint
