import Mathlib.Data.Bool.AllAny
import PseudoLint.Proofs.Form.ArrayDeclaration
import PseudoLint.Proofs.Text.UpperCase
import PseudoLint.Rule.Declaration

/-! # Reading parameter lists

A header is written from its parameters: each is a name and a type text with a colon between them,
and a passing mode may stand in front of the name. Reading takes the list apart at its commas, each
piece at its colon and what stands in front of the colon into words, so it gives the parameters
back. A word is taken for a passing mode only if another one follows. So a parameter may itself have
the name of a mode. -/

namespace PseudoLint

/-! ## Passing modes -/

/-- How an argument is passed. -/
inductive PassingMode where
  | value
  | reference
deriving DecidableEq, Repr

/-- The word for a passing mode. -/
def PassingMode.word : PassingMode → Text
  | .value => "BYVAL"
  | .reference => "BYREF"

/-- A passing mode as it is written, in any mixture of capitals and small letters. -/
structure WrittenMode where
  mode : PassingMode
  letters : Text
  spelled : letters.map Char.toUpper = mode.word

namespace WrittenMode

theorem isAsciiLetter_of_mem_word (mode : PassingMode) :
    ∀ c ∈ mode.word, isAsciiLetter c = true := by
  cases mode <;> exact List.all_iff_forall_prop.mp (by decide)

theorem isNameChar_of_mem_letters {written : WrittenMode} {c : Char}
    (member : c ∈ written.letters) : isNameChar c = true := by
  have letter := Text.isAsciiLetter_of_spelled (isAsciiLetter_of_mem_word written.mode)
    written.spelled c member
  rw [isNameChar, letter, Bool.true_or, Bool.true_or]

theorem letters_ne_nil (written : WrittenMode) : written.letters ≠ [] := by
  intro empty
  have spelled := written.spelled
  rw [empty] at spelled
  cases mode : written.mode <;> rw [mode] at spelled <;> cases spelled

theorem upper_letters (written : WrittenMode) : written.letters.upper = written.mode.word :=
  Text.upper_of_spelled (isAsciiLetter_of_mem_word written.mode) written.spelled

end WrittenMode

/-! ## Parameters -/

/-- A parameter as it is written. Its name may be that of a passing mode, and its type text may be
any that does not end the piece, the list or the code. -/
structure WrittenParameter where
  mode? : Option WrittenMode
  name : Text
  strict : isStrictName name = true
  type : Text
  plain : ∀ c ∈ type, c ∉ [':', ',', '(', ')', '\'', '"', '/', '\n']

namespace WrittenParameter

/-- What stands in front of the colon. -/
def front (written : WrittenParameter) : Text :=
  (written.mode?.elim [] fun mode => mode.letters ++ [' ']) ++ (written.name ++ [' '])

/-- A parameter as it stands in a header. -/
def text (written : WrittenParameter) : Text :=
  written.front ++ ':' :: ' ' :: written.type

/-- The parameter that is meant. -/
def parameter (number : Int) (written : WrittenParameter) : Parameter :=
  ⟨written.name, TypeText.normalize written.type, number,
    written.mode?.any (·.mode == .reference)⟩

theorem isName (written : WrittenParameter) : isName written.name = true :=
  isName_of_isStrictName written.strict

/-- In front of the colon stand letters of names and spaces. -/
theorem chars_front {written : WrittenParameter} {c : Char} (member : c ∈ written.front) :
    isNameChar c = true ∨ c = ' ' := by
  simp only [front, List.mem_append, List.mem_singleton] at member
  rcases member with inMode | inName | space
  · cases mode : written.mode? with
    | none =>
      rw [mode] at inMode
      cases inMode
    | some mode =>
      rw [mode] at inMode
      rcases List.mem_append.mp inMode with letter | space
      · exact .inl (WrittenMode.isNameChar_of_mem_letters letter)
      · exact .inr (List.mem_singleton.mp space)
  · exact .inl (isNameChar_of_mem written.isName inName)
  · exact .inr space

theorem words_front (written : WrittenParameter) :
    written.front.words =
      (written.mode?.elim [] fun mode => [mode.letters]) ++ [written.name] := by
  have space : isBlank ' ' = true := by decide
  have named : Text.words (written.name ++ [' ']) = [written.name] := by
    obtain ⟨nonempty, solid⟩ := isSolid_of_isName written.isName
    rw [Text.words, Text.runs_append_cons space, Text.runs_of_inside nonempty solid, Text.runs_nil,
      List.append_nil]
  rw [front]
  cases written.mode? with
  | none => exact named
  | some mode =>
    have solid : ∀ c ∈ mode.letters, isBlank c = false := fun c member =>
      not_isBlank_of_isWordChar
        (isWordChar_of_isNameChar (WrittenMode.isNameChar_of_mem_letters member))
    rw [Option.elim_some, Option.elim_some, List.append_assoc, List.singleton_append, Text.words,
      Text.runs_append_cons space, Text.runs_of_inside mode.letters_ne_nil solid]
    exact congrArg _ named

theorem not_mem_front (written : WrittenParameter) {c : Char} (outside : isNameChar c = false)
    (other : c ≠ ' ') : c ∉ written.front := by
  intro member
  rcases chars_front member with inName | space
  · rw [inName] at outside
    cases outside
  · exact other space

/-- A written parameter is read as the parameter that is meant, also behind blanks. -/
theorem parameter?_text (written : WrittenParameter) (number : Int) {padding : Text}
    (blanks : ∀ c ∈ padding, isBlank c = true) :
    Rule.parameter? number (padding ++ written.text) = some (written.parameter number) := by
  have colon : isBlank ':' = false := by decide
  have frontFree : ':' ∉ (padding ++ written.front).trimStart := by
    intro member
    rcases List.mem_append.mp ((Form.trimStart_suffix _).subset member) with early | inFront
    · rw [blanks ':' early] at colon
      cases colon
    · exact written.not_mem_front (by decide) (by decide) inFront
  have typeFree : ':' ∉ Text.trimEnd (' ' :: written.type) := by
    rw [Text.mem_trimEnd colon]
    intro member
    rcases List.mem_cons.mp member with space | inType
    · cases space
    · exact written.plain ':' inType (by decide)
  have pieces : List.splitOn ':' (padding ++ written.text).trim =
      [(padding ++ written.front).trimStart, Text.trimEnd (' ' :: written.type)] := by
    rw [text, ← List.append_assoc, Text.trim_append_cons colon, List.splitOn_append_cons_self,
      List.splitOn_eq_singleton frontFree, List.splitOn_eq_singleton typeFree,
      List.singleton_append]
  have words : (padding ++ written.front).trimStart.words =
      (written.mode?.elim [] fun mode => [mode.letters]) ++ [written.name] := by
    rw [Text.words_trimStart, Text.words, Text.runs_separators_append blanks]
    exact written.words_front
  have type : TypeText.normalize (Text.trimEnd (' ' :: written.type)) =
      TypeText.normalize written.type := by
    rw [TypeText.normalize, Text.words_trimEnd, Text.words, Text.runs_cons_separator (by decide)]
    rfl
  simp only [Rule.parameter?, pieces, words, type, parameter]
  cases written.mode? with
  | none => simp [written.isName]
  | some mode =>
    obtain ⟨kind, letters, spelled⟩ := mode
    have upper := WrittenMode.upper_letters ⟨kind, letters, spelled⟩
    dsimp only at upper
    simp only [Option.elim_some, List.singleton_append, upper, Option.any_some]
    cases kind with
    | value =>
      have other : (PassingMode.value.word == "BYREF".toList) = false := by decide
      have same : (PassingMode.value.word == "BYVAL".toList) = true := by decide
      rw [other, same, if_neg Bool.false_ne_true, if_pos rfl, if_pos written.isName]
      rfl
    | reference =>
      have same : (PassingMode.reference.word == "BYREF".toList) = true := by decide
      rw [same, if_pos rfl, if_pos written.isName]
      rfl

/-- Of the characters that end something in a header only the colon stands in a parameter. -/
theorem not_mem_text (written : WrittenParameter) {c : Char}
    (mark : c ∈ [',', '(', ')', '\'', '"', '/', '\n']) : c ∉ written.text := by
  have facts : ∀ d ∈ [',', '(', ')', '\'', '"', '/', '\n'],
      isNameChar d = false ∧ d ≠ ' ' ∧ d ≠ ':' := List.all_iff_forall_prop.mp (by decide)
  obtain ⟨outside, noSpace, noColon⟩ := facts c mark
  rw [text, List.mem_append, List.mem_cons, List.mem_cons]
  rintro (inFront | colon | space | inType)
  · exact written.not_mem_front outside noSpace inFront
  · exact noColon colon
  · exact noSpace space
  · exact written.plain c inType (List.mem_cons_of_mem _ mark)

end WrittenParameter

/-! ## Headers -/

/-- The list of parameters of a header. -/
def parameterText (parameters : List WrittenParameter) : Text :=
  Text.join ", " (parameters.map WrittenParameter.text)

/-- A header with any text between its parentheses, and what follows them. -/
def headerAround (keyword name inside ending : Text) : Text :=
  keyword ++ ' ' :: (name ++ '(' :: (inside ++ ')' :: ending))

/-- A header as it is written, with what follows the list of parameters. -/
def headerText (keyword name : Text) (parameters : List WrittenParameter) (ending : Text) : Text :=
  keyword ++ ' ' :: (name ++ '(' :: (parameterText parameters ++ ')' :: ending))

theorem headerText_eq (keyword name : Text) (parameters : List WrittenParameter) (ending : Text) :
    headerText keyword name parameters ending =
      headerAround keyword name (parameterText parameters) ending :=
  rfl

section

variable {keyword name inside ending : Text} {parameters : List WrittenParameter}

theorem not_mem_parameterText {c : Char} (mark : c ∈ ['(', ')', '\'', '"', '/', '\n']) :
    c ∉ parameterText parameters := by
  have between : ∀ d ∈ ['(', ')', '\'', '"', '/', '\n'], d ∉ ", ".toList :=
    List.all_iff_forall_prop.mp (by decide)
  apply Text.not_mem_join
  · exact between c mark
  · intro text member
    obtain ⟨written, -, rfl⟩ := List.mem_map.mp member
    exact written.not_mem_text (List.mem_cons_of_mem _ mark)

/-- The pieces of a list between its commas are its parameters. -/
theorem filterMap_parameter?_splitOn (nonempty : parameters ≠ []) (number : Int) :
    ((parameterText parameters).splitOn ',').filterMap (Rule.parameter? number) =
      parameters.map (·.parameter number) := by
  obtain ⟨first, rest, rfl⟩ := List.exists_cons_of_ne_nil nonempty
  have free : ∀ text ∈ (first :: rest).map WrittenParameter.text, ',' ∉ text := by
    intro text member
    obtain ⟨written, -, rfl⟩ := List.mem_map.mp member
    exact written.not_mem_text (by decide)
  have pieces : (parameterText (first :: rest)).splitOn ',' =
      first.text :: (rest.map WrittenParameter.text).map ([' '] ++ ·) :=
    Text.splitOn_join_padded (by decide) free
  have head := first.parameter?_text number (List.forall_mem_nil _)
  have tail : (fun written : WrittenParameter =>
      Rule.parameter? number ([' '] ++ written.text)) =
        fun written => Option.some (written.parameter number) := funext fun written =>
    written.parameter?_text number (List.forall_mem_singleton.mpr (by decide))
  rw [List.nil_append] at head
  rw [pieces, List.filterMap_cons_some head, List.filterMap_map, List.filterMap_map, List.map_cons]
  congr 1
  exact (congrArg (List.filterMap · rest) tail).trans (congrFun List.filterMap_eq_map rest)

/-- The space between the keyword and the name is passed over. -/
theorem blanks_space_append (named : isName name = true) (rest : Text) :
    Form.blanks (' ' :: (name ++ rest)) = some (name ++ rest) := by
  obtain ⟨nonempty, solid⟩ := isSolid_of_isName named
  obtain ⟨c, others, rfl⟩ := List.exists_cons_of_ne_nil nonempty
  exact Form.blanks_space_cons (solid c List.mem_cons_self) (others ++ rest)

/-- The text between the parentheses is read up to the first one that closes. -/
theorem parameterList_headerAround (subprogram : keyword = "FUNCTION" ∨ keyword = "PROCEDURE")
    (named : isName name = true) (unclosed : ')' ∉ inside) :
    Form.parameterList (headerAround keyword name inside ending) = some (inside, ending) := by
  let list := '(' :: (inside ++ ')' :: ending)
  have word : (Form.anyCase "FUNCTION" (headerAround keyword name inside ending)).or
      (Form.anyCase "PROCEDURE" (headerAround keyword name inside ending)) =
        some (' ' :: (name ++ list)) := by
    rcases subprogram with rfl | rfl
    · rw [headerAround, Form.anyCase_self, Option.some_or]
    · rw [headerAround, Form.anyCase_self]
      rfl
  have inWord : ∀ c ∈ name, isWordChar c = true :=
    fun c member => isWordChar_of_isNameChar (isNameChar_of_mem named member)
  have read : Form.stretch isWordChar (name ++ list) = some (name, list) :=
    Form.stretch_append_of_inside (isSolid_of_isName named).1 inWord
      (List.takeWhile_cons_of_neg (by decide))
  have opens : Form.mark '(' (Text.trimStart list) = some (inside ++ ')' :: ending) := by
    have solid : isBlank '(' = false := by decide
    rw [Text.trimStart_of_solid rfl solid]
    exact Form.mark_self '(' _
  have within : ∀ c ∈ inside, (c != ')') = true :=
    fun c member => bne_iff_ne.mpr fun same => unclosed (same ▸ member)
  have taken : (inside ++ ')' :: ending).takeWhile (· != ')') = inside :=
    (Text.takeWhile_dropWhile_append within (List.takeWhile_cons_of_neg (by decide))).1
  simp only [Form.parameterList, bind, Option.bind_eq_some_iff]
  refine ⟨_, word, _, blanks_space_append named list, _, read, _, opens, ending, ?_, ?_⟩
  · rw [taken, List.drop_left]
    exact Form.mark_self ')' ending
  · rw [taken]
    rfl

theorem functionName_headerAround (named : isName name = true) :
    Form.functionName (headerAround "FUNCTION" name inside ending) =
      some (name, '(' :: (inside ++ ')' :: ending)) := by
  rw [Form.functionName, headerAround]
  simp only [bind, Option.bind_eq_some_iff]
  exact ⟨_, Form.anyCase_self _ _, _, blanks_space_append named _,
    Form.foldedName_append_of_isName named (List.takeWhile_cons_of_neg (by decide))⟩

end

end PseudoLint
