import PseudoLint.Proofs.Check.ParameterList
import PseudoLint.Proofs.Check.Undeclared
import PseudoLint.Proofs.Core.Syntax
import PseudoLint.Proofs.Form.ArrayAccess
import PseudoLint.Proofs.Numeral
import PseudoLint.Proofs.Rule.Declaration

/-! # Array parameters

The type of an array with literal bounds has a colon of its own. A declaration is cut at its first
colon, so it takes such a type. A parameter is split at all its colons and passed over unless it has
exactly one, so a parameter of such a type is not bound, and its uses are reported as undeclared.
-/

namespace PseudoLint

/-! ## The two programs -/

/-- An array with literal bounds and the index at which it is read. -/
structure ArrayTrial where
  name : Text
  strict : isStrictName name = true
  notReserved : Keyword.isReserved name = false
  lower : Int
  upper : Int
  index : Int
  element : Core.BasicType

namespace ArrayTrial

variable (trial : ArrayTrial)

/-- The type of the array as it is written. -/
def type : Text :=
  "ARRAY[" ++ (Numeral.ofInt trial.lower ++ ':' ::
    (Numeral.ofInt trial.upper ++ ("] OF " ++ trial.element.text)))

/-- The name and the type with a colon between them. -/
def typedName : Text :=
  trial.name ++ ' ' :: ':' :: ' ' :: trial.type

/-- The header of a procedure whose parameter is the array. -/
def header : Text :=
  headerAround "PROCEDURE" "P" trial.typedName []

/-- The declaration of the array as a variable. -/
def declaration : Text :=
  "DECLARE" ++ ' ' :: trial.typedName

/-- The line that reads the array. -/
def use : Text :=
  "OUTPUT" ++ ' ' :: (trial.name ++ '[' :: (Numeral.ofInt trial.index ++ [']']))

/-- A procedure that reads its array parameter. -/
def parameterProgram : Text :=
  Text.join ['\n'] [trial.header, trial.use, "ENDPROCEDURE"]

/-- A program that reads a declared array. -/
def declarationProgram : Text :=
  Text.join ['\n'] [trial.declaration, trial.use]

theorem isName : isName trial.name = true :=
  isName_of_isStrictName trial.strict

/-! ### Characters -/

/-- The signs of the two programs outside the parentheses of the header. -/
def signs : Text :=
  [' ', ':', '[', ']', '-']

/-- A text of characters of names and of signs. -/
def Bare (text : Text) : Prop :=
  ∀ c ∈ text, isNameChar c = true ∨ c ∈ signs

theorem bare_of_all {text : Text}
    (all : text.all (fun c => isNameChar c || signs.contains c) = true) : Bare text := by
  intro c member
  simpa using List.all_eq_true.mp all c member

theorem Bare.append {left right : Text} (before : Bare left) (behind : Bare right) :
    Bare (left ++ right) :=
  List.forall_mem_append.mpr ⟨before, behind⟩

theorem Bare.cons {c : Char} {rest : Text} (sign : c ∈ signs) (behind : Bare rest) :
    Bare (c :: rest) :=
  List.forall_mem_cons.mpr ⟨.inr sign, behind⟩

theorem Bare.not_mem {text : Text} (bare : Bare text) {c : Char}
    (outside : isNameChar c = false) (other : c ∉ signs) : c ∉ text := by
  intro member
  rcases bare c member with inName | sign
  · rw [inName] at outside
    cases outside
  · exact other sign

theorem Bare.plain {text : Text} (bare : Bare text) : ∀ c ∈ ['\'', '"', '/'], c ∉ text := by
  have marks : ∀ c ∈ ['\'', '"', '/'], isNameChar c = false ∧ c ∉ signs :=
    List.all_iff_forall_prop.mp (by decide)
  exact fun c mark => bare.not_mem (marks c mark).1 (marks c mark).2

theorem Bare.leavesPlain {text : Text} (bare : Bare text) : LeavesPlain text text where
  outside := dropQuoted_of_free (bare.plain '"' (by decide))
  quotes := bare.plain '"' (by decide)
  apostrophes := bare.plain '\'' (by decide)
  slashes := bare.plain '/' (by decide)

theorem bare_of_isName {name : Text} (named : PseudoLint.isName name = true) : Bare name :=
  fun _ member => .inl (isNameChar_of_mem named member)

theorem bare_ofInt (value : Int) : Bare (Numeral.ofInt value) := by
  intro c member
  rcases Numeral.chars_ofInt member with digit | sign
  · left
    rw [isNameChar, digit, Bool.or_true, Bool.true_or]
  · right
    rw [sign]
    decide

theorem isName_element : PseudoLint.isName trial.element.text = true := by
  cases trial.element <;> decide

theorem bare_typedName : Bare trial.typedName := by
  have bounds : Bare trial.type :=
    (@bare_of_all "ARRAY[" (by decide)).append ((bare_ofInt _).append
      (.cons (by decide) ((bare_ofInt _).append
        ((@bare_of_all "] OF " (by decide)).append (bare_of_isName trial.isName_element)))))
  exact (bare_of_isName trial.isName).append
    (.cons (by decide) (.cons (by decide) (.cons (by decide) bounds)))

theorem bare_declaration : Bare trial.declaration :=
  (bare_of_isName (by decide)).append (.cons (by decide) trial.bare_typedName)

theorem bare_use : Bare trial.use :=
  (bare_of_isName (by decide)).append (.cons (by decide)
    ((bare_of_isName trial.isName).append (.cons (by decide)
      ((bare_ofInt _).append (.cons (by decide) (List.forall_mem_nil _))))))

/-! ### Lines -/

theorem solid_declaration : Text.Solid trial.declaration := by
  have parts : trial.declaration = "DECLARE".toList ++
      ((' ' :: (trial.name ++ ' ' :: ':' :: ' ' :: ("ARRAY[" ++ (Numeral.ofInt trial.lower ++
        ':' :: (Numeral.ofInt trial.upper ++ "] OF "))))) ++ trial.element.text) := by
    unfold declaration typedName type
    simp only [List.append_assoc, List.cons_append]
  rw [parts]
  exact Text.solid_append (isSolid_of_isName (by decide)) _ (isSolid_of_isName trial.isName_element)

theorem solid_use : Text.Solid trial.use := by
  have parts : trial.use = "OUTPUT".toList ++
      ((' ' :: (trial.name ++ '[' :: Numeral.ofInt trial.index)) ++ [']']) := by
    unfold use
    simp only [List.append_assoc, List.cons_append]
  rw [parts]
  exact Text.solid_append (isSolid_of_isName (by decide)) _
    (Text.isSolid_of_all (by decide) (by decide))

theorem statement_header (number : Int) :
    (Line.mk number trial.header).statement = ⟨number, trial.header⟩ :=
  statement_headerAround (.inr rfl) headerEnding_nil number

theorem statement_declaration (number : Int) :
    (Line.mk number trial.declaration).statement = ⟨number, trial.declaration⟩ := by
  rw [Line.statement, trial.solid_declaration.trim_eq]

theorem statement_use (number : Int) :
    (Line.mk number trial.use).statement = ⟨number, trial.use⟩ := by
  rw [Line.statement, trial.solid_use.trim_eq]

theorem code_header (number : Int) : Statement.code ⟨number, trial.header⟩ = trial.header :=
  code_headerAround (.inr rfl) (by decide) trial.bare_typedName.plain headerEnding_nil number

theorem code_declaration (number : Int) :
    Statement.code ⟨number, trial.declaration⟩ = trial.declaration :=
  trial.bare_declaration.leavesPlain.codeOf_eq.trans trial.solid_declaration.trim_eq

theorem code_use (number : Int) : Statement.code ⟨number, trial.use⟩ = trial.use :=
  trial.bare_use.leavesPlain.codeOf_eq.trans trial.solid_use.trim_eq

/-! ### Numbers -/

/-- The lower bound is not closed at once, so it is no index, whatever stands around the name and
its type. -/
theorem all_arrayAccess_eq_nil {front back : Text} (before : '[' ∉ front) (behind : '[' ∉ back) :
    Form.arrayAccess.all (front ++ (trial.typedName ++ back)) = [] := by
  let left := front ++ (trial.name ++ ' ' :: ':' :: ' ' :: "ARRAY")
  let right := Numeral.ofInt trial.upper ++ ("] OF " ++ (trial.element.text ++ back))
  have split : front ++ (trial.typedName ++ back) =
      left ++ '[' :: ((Numeral.Literal.ofInt trial.lower).written ++ ':' :: right) := by
    unfold typedName type
    simp only [left, right, Numeral.Literal.written_ofInt, List.append_assoc, List.cons_append]
    rfl
  have inLeft : '[' ∉ left := by
    simp only [left, List.mem_append, List.mem_cons, not_or]
    exact ⟨before, not_mem_of_isName trial.isName (by decide), by decide, by decide, by decide,
      by decide⟩
  have inRight : '[' ∉ ':' :: right := by
    simp only [right, List.mem_append, List.mem_cons, not_or]
    exact ⟨by decide, Numeral.not_mem_ofInt (by decide) (by decide) _, by decide,
      not_mem_of_isName trial.isName_element (by decide), behind⟩
  rw [split, List.eq_nil_iff_forall_not_mem]
  intro access member
  have closed := (Form.literal_of_mem_all inLeft (Numeral.Literal.proper_ofInt _) (by decide)
    (by decide) inRight member).2
  cases closed

theorem not_overlong_header (number : Int) :
    ¬ Statement.Overlong ⟨number, trial.header⟩ := by
  have accesses : Form.arrayAccess.all trial.header = [] :=
    @all_arrayAccess_eq_nil trial "PROCEDURE P(" [')'] (by decide) (by decide)
  rintro (⟨declares, -⟩ | ⟨name, index, member, -⟩)
  · cases declares
  · rw [trial.code_header, accesses] at member
    cases member

/-- The declaration is read as one of an array with its bounds. -/
theorem first?_declaration :
    Form.arrayDeclaration.first? trial.declaration =
      some (trial.name, .ofInt trial.lower, .ofInt trial.upper) := by
  let lower := Numeral.Literal.ofInt trial.lower
  let upper := Numeral.Literal.ofInt trial.upper
  have solid {token : Text} (given : token ≠ []) (all : token.all (!isBlank ·) = true) :
      token.IsSolid := Text.isSolid_of_all given all
  have properLower : lower.Proper := Numeral.Literal.proper_ofInt _
  have properUpper : upper.Proper := Numeral.Literal.proper_ofInt _
  have spells : Text.Spells (" OF " ++ trial.element.text)
      (trial.name :: ":" :: Form.boundTokens lower upper) (' ' :: trial.typedName) := by
    unfold typedName type
    rw [← Numeral.Literal.written_ofInt, ← Numeral.Literal.written_ofInt]
    exact .spaced (isSolid_of_isName trial.isName) (.spaced (solid (by decide) (by decide))
      (.spaced (solid (by decide) (by decide)) (.glued (solid (by decide) (by decide))
        (.glued properLower.isSolid (.glued (solid (by decide) (by decide))
          (.glued properUpper.isSolid (.glued (solid (by decide) (by decide)) .nil)))))))
  exact Form.first?_of_fits (List.cons_ne_nil _ _)
    (Form.arrayDeclaration_of_spells (by decide) trial.isName properLower properUpper spells)

theorem not_readable_iff {value : Int} :
    ¬ Numeral.Readable value ↔
      Numeral.digitLimit < (Numeral.Literal.ofInt value).digits.length := by
  rw [Numeral.Readable, Nat.not_le]

theorem overlong_declaration_iff (number : Int) :
    Statement.Overlong ⟨number, trial.declaration⟩ ↔
      ¬ Numeral.Readable trial.lower ∨ ¬ Numeral.Readable trial.upper := by
  have accesses : Form.arrayAccess.all trial.declaration = [] := by
    have whole := @all_arrayAccess_eq_nil trial "DECLARE " [] (by decide) (by decide)
    rwa [List.append_nil] at whole
  rw [not_readable_iff, not_readable_iff]
  constructor
  · rintro (⟨-, name, lower, upper, found, long⟩ | ⟨name, index, member, -⟩)
    · rw [trial.code_declaration, trial.first?_declaration] at found
      cases found
      exact long
    · rw [trial.code_declaration, accesses] at member
      cases member
  · intro long
    refine .inl ⟨rfl, trial.name, .ofInt trial.lower, .ofInt trial.upper, ?_, long⟩
    rw [trial.code_declaration, trial.first?_declaration]

theorem use_eq :
    trial.use = ("OUTPUT" ++ ' ' :: trial.name) ++
      '[' :: ((Numeral.Literal.ofInt trial.index).written ++ [']']) := by
  unfold use
  simp only [Numeral.Literal.written_ofInt, List.append_assoc, List.cons_append]

/-- The literal index of the use is the only one on its line. -/
theorem overlong_use_iff (number : Int) :
    Statement.Overlong ⟨number, trial.use⟩ ↔ ¬ Numeral.Readable trial.index := by
  have proper := Numeral.Literal.proper_ofInt trial.index
  rw [not_readable_iff]
  constructor
  · rintro (⟨declares, -⟩ | ⟨name, index, member, long⟩)
    · cases declares
    · have free : '[' ∉ "OUTPUT" ++ ' ' :: trial.name := by
        simp only [List.mem_append, List.mem_cons, not_or]
        exact ⟨by decide, by decide, not_mem_of_isName trial.isName (by decide)⟩
      rw [trial.code_use, use_eq] at member
      obtain ⟨rfl, -⟩ :=
        Form.literal_of_mem_all free proper (by decide) (by decide) (by decide) member
      exact long
  · intro long
    have fits := Form.arrayAccess_append trial.isName proper []
    have passed : Form.arrayAccess.all trial.use = Form.arrayAccess.all (trial.name ++
        '[' :: ((Numeral.Literal.ofInt trial.index).written ++ [']'])) := by
      rw [use_eq, List.append_assoc]
      rfl
    refine .inr ⟨trial.name, .ofInt trial.index, ?_, long⟩
    rw [trial.code_use, passed]
    exact Form.mem_all_of_fits (by simp) fits

/-! ### Registrations -/

/-- The header registers nothing: the rule passes over its only parameter. -/
theorem registrations_header (number : Int) :
    Statement.registrations ⟨number, trial.header⟩ = [] := by
  have comma : ',' ∉ trial.typedName := trial.bare_typedName.not_mem (by decide) (by decide)
  have unclosed : ')' ∉ trial.typedName := trial.bare_typedName.not_mem (by decide) (by decide)
  have parameters : Rule.parameters ⟨number, trial.header⟩ = [] := by
    have read : Rule.parameter? number trial.typedName = none := by
      have colons : trial.typedName = (trial.name ++ [' ']) ++ ':' ::
          ((' ' :: ("ARRAY[" ++ Numeral.ofInt trial.lower)) ++ ':' ::
            (Numeral.ofInt trial.upper ++ ("] OF " ++ trial.element.text))) := by
        unfold typedName type
        simp only [List.append_assoc, List.cons_append, List.nil_append]
      rw [colons]
      exact Rule.parameter?_of_two_colons number _ _ _
    rw [header, parameters_headerAround (.inr rfl) (by decide) trial.bare_typedName.plain unclosed
      headerEnding_nil, List.splitOn_eq_singleton comma, List.filterMap_cons_none read,
      List.filterMap_nil]
  have first : Statement.firstWord ⟨number, trial.header⟩ = "PROCEDURE" :=
    firstWord_headerAround (.inr rfl) number
  rw [Statement.registrations, Statement.headerRegistrations, first, parameters]
  rfl

theorem registrations_use (number : Int) :
    Statement.registrations ⟨number, trial.use⟩ = [] := by
  have first : Statement.firstWord ⟨number, trial.use⟩ = "OUTPUT" :=
    Statement.firstWord_append (by decide) _ number
  rw [Statement.registrations, Statement.headerRegistrations, first]
  rfl

theorem normalize_type : TypeText.normalize (' ' :: trial.type) = trial.type := by
  let array : Text := "ARRAY[" ++ (Numeral.ofInt trial.lower ++ ':' ::
    (Numeral.ofInt trial.upper ++ "]"))
  have words : trial.type = Text.join " " [array, "OF", trial.element.text] := by
    unfold type
    simp only [array, Text.join, List.intercalate_cons_cons, List.intercalate_singleton,
      List.append_assoc, List.cons_append]
    rfl
  have solid {token : Text} (given : token ≠ []) (all : token.all (!isBlank ·) = true) :
      token.IsSolid := Text.isSolid_of_all given all
  have arraySolid : array.IsSolid :=
    (solid (by decide) (by decide)).append ((Numeral.isSolid_ofInt _).append
      ((@solid [':'] (by decide) (by decide)).append ((Numeral.isSolid_ofInt _).append
        (solid (by decide) (by decide)))))
  have inWords : ∀ word ∈ [array, "OF", trial.element.text], word.IsSolid := by
    simp only [List.forall_mem_cons]
    exact ⟨arraySolid, solid (by decide) (by decide), isSolid_of_isName trial.isName_element,
      List.forall_mem_nil _⟩
  have passed : Text.words (' ' :: trial.type) = trial.type.words :=
    Text.runs_cons_separator (by decide) _
  rw [TypeText.normalize, passed, words]
  exact TypeText.normalize_join inWords

/-- The declaration is cut at its first colon. -/
theorem declaredNames?_declaration (number : Int) :
    Rule.declaredNames? ⟨number, trial.declaration⟩ = some ([trial.name], trial.type) := by
  have read := Rule.declaredNames?_of_code trial.isName (trial.code_declaration number)
  rwa [trial.normalize_type] at read

theorem array?_declaration (number : Int) :
    Statement.array? ⟨number, trial.declaration⟩ =
      some ⟨trial.name, trial.lower, trial.upper, number⟩ := by
  rw [Statement.array?, trial.code_declaration, trial.first?_declaration]
  simp only [Option.map_some, Numeral.Literal.number_ofInt]

/-- The declaration registers the variable and the array. -/
theorem registrations_declaration (number : Int) :
    Statement.registrations ⟨number, trial.declaration⟩ =
      [.definition ⟨trial.name, trial.type, number, .variable⟩,
        .array ⟨trial.name, trial.lower, trial.upper, number⟩] := by
  have first : Statement.firstWord ⟨number, trial.declaration⟩ = "DECLARE" :=
    Statement.firstWord_append (by decide) _ number
  have declares : Statement.startsWith ⟨number, trial.declaration⟩ "DECLARE" = true := rfl
  have defined : Statement.variableRegistrations ⟨number, trial.declaration⟩ =
      [.definition ⟨trial.name, trial.type, number, .variable⟩,
        .array ⟨trial.name, trial.lower, trial.upper, number⟩] := by
    rw [Statement.variableRegistrations, if_pos declares, trial.declaredNames?_declaration,
      trial.array?_declaration, Option.elim_some, definitions]
    simp [trial.notReserved]
  rw [Statement.registrations, Statement.headerRegistrations, first, defined]
  rfl

/-! ### The use -/

theorem readsVariables_use (number : Int) :
    Rule.readsVariables ⟨number, trial.use⟩ = true := by
  have quotes : '"' ∉ trial.use := trial.bare_use.plain '"' (by decide)
  have closed : Statement.hasUnclosedString ⟨number, trial.use⟩ = false := by
    rw [Statement.hasUnclosedString, List.count_eq_zero.mpr quotes]
    rfl
  have triggers : Keyword.usageTriggers.any (trial.use.hasInfix ·) = true := by
    refine List.any_eq_true.mpr ⟨"OUTPUT", by decide, Text.hasInfix_iff.mpr ?_⟩
    exact (List.prefix_append _ _).isInfix
  rw [Rule.readsVariables, closed, trial.code_use, triggers]
  rfl

/-- In front of the bracket the name is used as that of a variable. -/
theorem variableUse_mem :
    ∃ use ∈ nameUses trial.use, use.name = trial.name ∧ Rule.isVariableUse use = true := by
  let right : Text := '[' :: (Numeral.ofInt trial.index ++ [']'])
  have found : ⟨"OUTPUT ".toList.reverse, trial.name, right⟩ ∈
      nameUses ("OUTPUT ".toList ++ (trial.name ++ right)) :=
    mem_nameUses trial.isName (by decide) rfl
  refine ⟨_, found, rfl, ?_⟩
  simp only [Rule.isVariableUse, trial.notReserved]
  rfl

/-- The use of a name that is not declared is reported. -/
theorem undeclared_mem_findings (config : Config) (number : Int) {state : State}
    (absent : state.table.isDeclared trial.name = false) :
    Finding.undeclared trial.name ∈ Check.findings config ⟨number, trial.use⟩ state := by
  obtain ⟨use, found, named, stands⟩ := trial.variableUse_mem
  have table : Rule.registered ⟨number, trial.use⟩ state.table = state.table := by
    rw [Rule.registered_eq, trial.registrations_use, SymbolTable.registerAll_nil]
  apply Check.mem_findings_iff.mpr
  apply List.mem_append_right
  rw [trial.statement_use, table, Rule.usageFindings, if_pos (trial.readsVariables_use number),
    trial.code_use]
  refine List.mem_map.mpr ⟨use, List.mem_filter.mpr ⟨found, ?_⟩, by rw [named]⟩
  rw [stands, named, absent]
  rfl

/-! ### Content -/

theorem isContent_use (number : Int) : (Line.mk number trial.use).isContent = true := by
  rw [Line.isContent, trial.statement_use]
  rfl

theorem newline_not_mem_use : '\n' ∉ trial.use :=
  trial.bare_use.not_mem (by decide) (by decide)

theorem contentOf_parameterProgram :
    Line.contentOf trial.parameterProgram =
      [⟨1, trial.header⟩, ⟨2, trial.use⟩, ⟨3, "ENDPROCEDURE"⟩] := by
  have headerFree : '\n' ∉ trial.header := by
    unfold header headerAround
    simp only [List.mem_append, List.mem_cons, not_or]
    exact ⟨by decide, by decide, by decide, by decide,
      trial.bare_typedName.not_mem (by decide) (by decide), by decide, List.not_mem_nil⟩
  have free : ∀ raw ∈ [trial.header, trial.use, "ENDPROCEDURE"], '\n' ∉ raw := by
    simp only [List.forall_mem_cons]
    exact ⟨headerFree, trial.newline_not_mem_use, by decide, List.forall_mem_nil _⟩
  have headerContent : (Line.mk 1 trial.header).isContent = true := by
    rw [Line.isContent, trial.statement_header]
    rfl
  have closerContent : (Line.mk 3 "ENDPROCEDURE").isContent = true := by decide
  apply Line.contentOf_join (List.cons_ne_nil _ _) free
  simp only [Line.enumerate, List.forall_mem_cons]
  exact ⟨headerContent, trial.isContent_use 2, closerContent, List.forall_mem_nil _⟩

theorem contentOf_declarationProgram :
    Line.contentOf trial.declarationProgram = [⟨1, trial.declaration⟩, ⟨2, trial.use⟩] := by
  have free : ∀ raw ∈ [trial.declaration, trial.use], '\n' ∉ raw := by
    simp only [List.forall_mem_cons]
    exact ⟨trial.bare_declaration.not_mem (by decide) (by decide), trial.newline_not_mem_use,
      List.forall_mem_nil _⟩
  have content : (Line.mk 1 trial.declaration).isContent = true := by
    rw [Line.isContent, trial.statement_declaration]
    rfl
  apply Line.contentOf_join (List.cons_ne_nil _ _) free
  simp only [Line.enumerate, List.forall_mem_cons]
  exact ⟨content, trial.isContent_use 2, List.forall_mem_nil _⟩

end ArrayTrial

/-! ## The two checks -/

namespace Check

variable (config : Config) (trial : ArrayTrial)

theorem overlong_useLine_iff :
    (Line.mk 2 trial.use).Overlong config ↔ ¬ Numeral.Readable trial.index := by
  rw [Line.overlong_iff_of_solid ⟨'O', _, rfl, rfl⟩, trial.statement_use]
  exact trial.overlong_use_iff 2

/-- The procedure is checked to its end exactly if the index can be read; the bounds are no
numbers of an access or of a declaration. -/
theorem parameterProgram_answers_iff :
    (∃ check, run config trial.parameterProgram = .ok check) ↔
      config.indentUnit ≠ 0 ∧ Numeral.Readable trial.index := by
  have header : ¬ (Line.mk 1 trial.header).Overlong config := by
    rw [Line.overlong_iff_of_solid ⟨'P', _, rfl, rfl⟩, trial.statement_header]
    exact trial.not_overlong_header 1
  have closer : ¬ (Line.mk 3 "ENDPROCEDURE").Overlong config := by
    rw [Line.overlong_iff_of_solid ⟨'E', _, rfl, rfl⟩]
    exact Statement.not_overlong_of_free (by decide)
  rw [exists_run_ok_iff, trial.contentOf_parameterProgram]
  simp only [List.forall_mem_cons, overlong_useLine_iff, Classical.not_not]
  constructor
  · rintro ⟨-, ⟨unit, readable⟩, -⟩
    exact ⟨unit, readable⟩
  · rintro ⟨unit, readable⟩
    exact ⟨⟨unit, header⟩, ⟨unit, readable⟩, ⟨unit, closer⟩, List.forall_mem_nil _⟩

theorem declarationProgram_answers_iff :
    (∃ check, run config trial.declarationProgram = .ok check) ↔
      config.indentUnit ≠ 0 ∧ Numeral.Readable trial.lower ∧ Numeral.Readable trial.upper ∧
        Numeral.Readable trial.index := by
  have declaration : (Line.mk 1 trial.declaration).Overlong config ↔
      ¬ Numeral.Readable trial.lower ∨ ¬ Numeral.Readable trial.upper := by
    rw [Line.overlong_iff_of_solid ⟨'D', _, rfl, rfl⟩, trial.statement_declaration]
    exact trial.overlong_declaration_iff 1
  rw [exists_run_ok_iff, trial.contentOf_declarationProgram]
  simp only [List.forall_mem_cons, declaration, overlong_useLine_iff, not_or, Classical.not_not]
  constructor
  · rintro ⟨⟨unit, lower, upper⟩, ⟨-, index⟩, -⟩
    exact ⟨unit, lower, upper, index⟩
  · rintro ⟨unit, lower, upper, index⟩
    exact ⟨⟨unit, lower, upper⟩, ⟨unit, index⟩, List.forall_mem_nil _⟩

/-- The header leaves nothing behind, so the use in the body is reported. -/
theorem parameterProgram_reports :
    (outcome config trial.parameterProgram).symbols = [⟨"GLOBAL __global__", []⟩] ∧
      (Finding.undeclared trial.name).on 2 ∈
        (outcome config trial.parameterProgram).diagnostics := by
  have cut : Line.contentOf trial.parameterProgram =
      [⟨1, trial.header⟩] ++ ⟨2, trial.use⟩ :: [⟨3, "ENDPROCEDURE"⟩] :=
    trial.contentOf_parameterProgram
  have content : Line.anyContent (Line.ofSource trial.parameterProgram) = true := by
    apply @Line.anyContent_of_mem _ ⟨2, trial.use⟩
    rw [cut]
    exact List.mem_append_right _ List.mem_cons_self
  have closer : (Line.mk 3 "ENDPROCEDURE").statement.registrations = [] := by decide +kernel
  constructor
  · rw [symbols_outcome content, after_table, cut]
    simp only [registrations, List.flatMap_append, List.flatMap_cons, List.flatMap_nil,
      trial.statement_header, trial.registrations_header, trial.statement_use,
      trial.registrations_use, closer, List.append_nil, SymbolTable.registerAll_nil]
    rfl
  · refine mem_diagnostics_of_mem_findings cut (trial.undeclared_mem_findings config 2 ?_)
    rw [after_table]
    simp only [registrations, List.flatMap_cons, List.flatMap_nil, trial.statement_header,
      trial.registrations_header, List.append_nil, SymbolTable.registerAll_nil]
    rfl

/-- The declaration leaves the variable and the array, so no use is reported. -/
theorem declarationProgram_silent :
    (outcome config trial.declarationProgram).symbols =
        [⟨"GLOBAL __global__", [⟨trial.name, "var", trial.type, 1⟩]⟩,
          ⟨"ARRAYS", [ArraySymbol.entry ⟨trial.name, trial.lower, trial.upper, 1⟩]⟩] ∧
      ∀ number, (Finding.undeclared trial.name).on number ∉
        (outcome config trial.declarationProgram).diagnostics := by
  have content := trial.contentOf_declarationProgram
  have anyContent : Line.anyContent (Line.ofSource trial.declarationProgram) = true := by
    apply @Line.anyContent_of_mem _ ⟨1, trial.declaration⟩
    rw [content]
    exact List.mem_cons_self
  have offered : ⟨trial.name, trial.type, 1, .variable⟩ ∈
      (Line.mk 1 trial.declaration).statement.globals := by
    rw [trial.statement_declaration, Statement.globals, trial.registrations_declaration]
    exact List.mem_cons_self
  constructor
  · rw [symbols_outcome anyContent, after_table, content]
    simp only [registrations, List.flatMap_cons, List.flatMap_nil, trial.statement_declaration,
      trial.registrations_declaration, trial.statement_use, trial.registrations_use,
      List.append_nil]
    rfl
  · exact undeclared_not_mem_of_first content offered

/-- An array with literal bounds is registered by a declaration and never by a parameter, whatever
its name, its bounds and its type. The procedure is checked to its end if its index can be read, its
parameter is not bound, and the use in its body is reported as undeclared. After the declaration
the variable and the array are listed, and no use is reported. -/
theorem array_parameter_undeclared :
    ((∃ check, run config trial.parameterProgram = .ok check) ↔
      config.indentUnit ≠ 0 ∧ Numeral.Readable trial.index) ∧
    (∀ check, run config trial.parameterProgram = .ok check →
      check.symbols = [⟨"GLOBAL __global__", []⟩] ∧
        (Finding.undeclared trial.name).on 2 ∈ check.diagnostics) ∧
    ((∃ check, run config trial.declarationProgram = .ok check) ↔
      config.indentUnit ≠ 0 ∧ Numeral.Readable trial.lower ∧ Numeral.Readable trial.upper ∧
        Numeral.Readable trial.index) ∧
    ∀ check, run config trial.declarationProgram = .ok check →
      check.symbols =
          [⟨"GLOBAL __global__", [⟨trial.name, "var", trial.type, 1⟩]⟩,
            ⟨"ARRAYS", [ArraySymbol.entry ⟨trial.name, trial.lower, trial.upper, 1⟩]⟩] ∧
        ∀ number, (Finding.undeclared trial.name).on number ∉ check.diagnostics := by
  refine ⟨parameterProgram_answers_iff config trial, ?_,
    declarationProgram_answers_iff config trial, ?_⟩
  · intro check ran
    rw [(run_eq_ok ran).1]
    exact parameterProgram_reports config trial
  · intro check ran
    rw [(run_eq_ok ran).1]
    exact declarationProgram_silent config trial

/-- An array of five numbers is not found as a parameter and is found as a variable. -/
theorem array_of_five_as_parameter_and_variable :
    let trial : ArrayTrial := ⟨"a", by decide, by decide, 1, 5, 3, .integer⟩
    trial.parameterProgram =
        "PROCEDURE P(a : ARRAY[1:5] OF INTEGER)\nOUTPUT a[3]\nENDPROCEDURE" ∧
      trial.declarationProgram = "DECLARE a : ARRAY[1:5] OF INTEGER\nOUTPUT a[3]" ∧
      (∃ check, run {} trial.parameterProgram = .ok check ∧
        check.symbols = [⟨"GLOBAL __global__", []⟩] ∧
        (Finding.undeclared "a").on 2 ∈ check.diagnostics) ∧
      ∃ check, run {} trial.declarationProgram = .ok check ∧
        check.symbols = [⟨"GLOBAL __global__", [⟨"a", "var", "ARRAY[1:5] OF INTEGER", 1⟩]⟩,
          ⟨"ARRAYS", [⟨"a", "array", "[1:5]", 1⟩]⟩] ∧
        ∀ number, (Finding.undeclared "a").on number ∉ check.diagnostics := by
  intro trial
  have one : Numeral.Readable 1 := by decide
  have three : Numeral.Readable 3 := by decide
  have five : Numeral.Readable 5 := by decide
  have unit : ({} : Config).indentUnit ≠ 0 := by decide
  obtain ⟨parameterRuns, reported, declarationRuns, silent⟩ := array_parameter_undeclared {} trial
  refine ⟨by decide +kernel, by decide +kernel, ?_, ?_⟩
  · obtain ⟨check, ran⟩ := parameterRuns.mpr ⟨unit, three⟩
    exact ⟨check, ran, reported check ran⟩
  · obtain ⟨check, ran⟩ := declarationRuns.mpr ⟨unit, one, five, three⟩
    exact ⟨check, ran, silent check ran⟩

/-- The procedure with an array parameter is refused, for the index is said to be that of an
undeclared variable. -/
theorem array_parameter_refused :
    isStrictName "a" = true ∧ Keyword.isReserved "a" = false ∧
      ∃ check, run {} "PROCEDURE P(a : ARRAY[1:5] OF INTEGER)\nOUTPUT a[3]\nENDPROCEDURE" =
          .ok check ∧
        check.isValid = false ∧ check.diagnostics = [(Finding.undeclared "a").on 2] ∧
        check.symbols = [⟨"GLOBAL __global__", []⟩] := by
  let source : Text := "PROCEDURE P(a : ARRAY[1:5] OF INTEGER)\nOUTPUT a[3]\nENDPROCEDURE"
  have facts : (run {} source).isOk = true ∧ (outcome {} source).isValid = false ∧
      (outcome {} source).diagnostics = [(Finding.undeclared "a").on 2] ∧
      (outcome {} source).symbols = [⟨"GLOBAL __global__", []⟩] := by
    decide +kernel
  obtain ⟨succeeds, refused, reported, unbound⟩ := facts
  exact ⟨by decide, by decide, _, run_of_isOk {} _ succeeds, refused, reported, unbound⟩

end Check

end PseudoLint
