import PseudoLint.Proofs.Check.Redeclaration
import PseudoLint.Proofs.Form.ArrayDeclaration

/-! # Declared arrays and their bounds

A declaration is read twice: the variables are what stands before the first colon, split at commas,
while the bounds are read by a form that allows one name. For a declaration of a single name the two
readings agree, although the variable keeps its type with normalized blanks and the form reads the
line as it is. So such a variable has bounds from its line on, and every access with a literal index
is compared with them.
-/

namespace PseudoLint

/-- A type text of the form `ARRAY[lower:upper]`, with whatever follows. The bounds are integers,
and blanks may stand between the parts. -/
def TypeText.HasBounds (type : Text) : Prop :=
  ∃ lower upper : Numeral.Literal, ∃ rest, lower.Proper ∧ upper.Proper ∧
    Text.Spells rest (Form.boundTokens lower upper) type

/-- A type text has bounds if it has them after its blanks have been normalized. -/
theorem TypeText.HasBounds.of_normalize {type : Text} (bounds : HasBounds (normalize type)) :
    HasBounds type := by
  obtain ⟨lower, upper, rest, properLower, properUpper, spells⟩ := bounds
  have same : (normalize type).words = type.words :=
    Text.words_join fun _ => Text.isSolid_of_mem_words
  obtain ⟨rest', spelled⟩ := spells.of_words_eq same
  exact ⟨lower, upper, rest', properLower, properUpper, spelled⟩

namespace Statement

/-- A declaration of one name alone: in the code a blank follows the first word, and no comma stands
before the first colon. -/
def DeclaresAlone (statement : Statement) : Prop :=
  ∃ (gap : Char) (name type : Text), PseudoLint.isBlank gap = true ∧ ':' ∉ name ∧ ',' ∉ name ∧
    statement.code = "DECLARE".toList ++ gap :: (name ++ ':' :: type)

/-- A declaration of one name alone, whose type has bounds, is read as an array of this name. -/
theorem DeclaresAlone.array?_eq {statement : Statement} (alone : statement.DeclaresAlone)
    {names : List Text} {name type : Text}
    (declared : Rule.declaredNames? statement = some (names, type)) (member : name ∈ names)
    (bounds : TypeText.HasBounds type) :
    ∃ lower upper, statement.array? = some ⟨name, lower, upper, statement.line⟩ := by
  obtain ⟨gap, words, raw, blank, colon, comma, code⟩ := alone
  have free : ∀ c, PseudoLint.isBlank c = false → c ∉ words → c ∉ gap :: words := by
    intro c solid outside member
    rcases List.mem_cons.mp member with rfl | inside
    · rw [blank] at solid
      cases solid
    · exact outside inside
  have cut : Text.cut ':' (statement.code.drop "DECLARE".length) = (gap :: words, some raw) := by
    rw [code]
    exact Text.cut_append_cons (free ':' (by decide) colon) raw
  simp only [Rule.declaredNames?, cut, List.splitOn_eq_singleton (free ',' (by decide) comma),
    List.map_cons, List.map_nil, Option.some.injEq, Prod.mk.injEq] at declared
  obtain ⟨rfl, rfl⟩ := declared
  obtain ⟨only, named⟩ := List.mem_filter.mp member
  rw [List.mem_singleton] at only
  obtain ⟨lower, upper, rest, properLower, properUpper, spells⟩ := bounds.of_normalize
  obtain ⟨beginning, ending, before, behind, split⟩ := Text.exists_trim (gap :: words)
  have spelled : Text.Spells rest (name :: ":" :: Form.boundTokens lower upper)
      (gap :: (words ++ ':' :: raw)) := by
    have whole : gap :: (words ++ ':' :: raw) =
        beginning ++ (name ++ (ending ++ (":".toList ++ raw))) := by
      rw [← List.cons_append, split, ← only]
      simp
    rw [whole]
    exact .cons before (isSolid_of_isName named)
      (.cons behind (Text.isSolid_of_all (by decide) (by decide)) spells)
  have fits := Form.arrayDeclaration_of_spells blank named properLower properUpper spelled
  rw [← code] at fits
  refine ⟨lower.number, upper.number, ?_⟩
  rw [array?, Form.first?_of_fits (by rw [code]; exact List.cons_ne_nil _ _) fits]
  rfl

/-- A defined variable is a name of a declaration, with the type of the declaration. -/
theorem declared_of_mem_registrations {statement : Statement} {symbol : Symbol}
    (member : Registration.definition symbol ∈ statement.registrations) :
    statement.startsWith "DECLARE" = true ∧ symbol.line = statement.line ∧
      ∃ names, Rule.declaredNames? statement = some (names, symbol.type) ∧
        symbol.name ∈ names := by
  simp only [registrations, List.mem_append] at member
  rcases member with (defined | bound) | header
  · unfold variableRegistrations at defined
    split at defined
    · rename_i declares
      rcases List.mem_append.mp defined with named | array
      · cases declared : Rule.declaredNames? statement with
        | none =>
          rw [declared] at named
          cases named
        | some pair =>
          rw [declared] at named
          obtain ⟨name, present, same⟩ := List.mem_map.mp named
          cases same
          exact ⟨declares, rfl, pair.1, rfl, (List.mem_filter.mp present).1⟩
      · obtain ⟨_, -, other⟩ := List.mem_map.mp array
        cases other
    · cases defined
  · cases definition?_of_mem_constantRegistrations _ bound
  · cases definition?_of_mem_headerRegistrations _ header

theorem array_mem_registrations {statement : Statement} {array : ArraySymbol}
    (declares : statement.startsWith "DECLARE" = true) (read : statement.array? = some array) :
    .array array ∈ statement.registrations := by
  refine List.mem_append_left _ (List.mem_append_left _ ?_)
  rw [variableRegistrations, if_pos declares, read]
  exact List.mem_append_right _ List.mem_cons_self

end Statement

/-! ## The bounds of a table -/

namespace SymbolTable

theorem isSome_array?_iff {table : SymbolTable} {name : Text} :
    (table.array? name).isSome = true ↔ name.lower ∈ table.arrays.names :=
  Registry.isSome_get?_iff table.arrays name.lower

/-- A registered array keeps its place in the table. -/
theorem mem_arrays_registerAll (table : SymbolTable) {registrations : List Registration}
    {array : ArraySymbol} (member : .array array ∈ registrations) :
    array.name.lower ∈ (table.registerAll registrations).arrays.names := by
  obtain ⟨before, later, rfl⟩ := List.append_of_mem member
  rw [registerAll_append, registerAll_cons]
  refine (extends_registerAll _ later).arrays.subset ?_
  rw [← isSome_array?_iff, register, declareArray, array?, Registry.get?_put, if_pos rfl]
  rfl

end SymbolTable

namespace Line

/-- A number stands for one line with content. -/
theorem eq_of_number_eq {source : Text} {first second : Line} (firstIn : first ∈ contentOf source)
    (secondIn : second ∈ contentOf source) (same : first.number = second.number) :
    first = second := by
  obtain ⟨before, later, split⟩ := List.append_of_mem firstIn
  have ordered := pairwise_contentOf source
  rw [split] at ordered secondIn
  obtain ⟨-, behind, across⟩ := List.pairwise_append.mp ordered
  rcases List.mem_append.mp secondIn with earlier | here
  · have less := across second earlier first List.mem_cons_self
    omega
  · rcases List.mem_cons.mp here with rfl | further
    · rfl
    · have less := (List.pairwise_cons.mp behind).1 second further
      omega

/-- Lines whose numbers are not greater than that of a line stand up to it. -/
theorem mem_of_number_le {source : Text} {before later : List Line} {line other : Line}
    (cut : contentOf source = before ++ line :: later) (member : other ∈ contentOf source)
    (bound : other.number ≤ line.number) : other ∈ before ++ [line] := by
  have ordered := pairwise_contentOf source
  rw [cut] at ordered member
  obtain ⟨-, behind, -⟩ := List.pairwise_append.mp ordered
  rcases List.mem_append.mp member with earlier | here
  · exact List.mem_append_left _ earlier
  · rcases List.mem_cons.mp here with rfl | further
    · exact List.mem_append_right _ List.mem_cons_self
    · have less := (List.pairwise_cons.mp behind).1 other further
      omega

end Line

namespace Check

/-- A variable in the global scope was defined by the line that it carries. -/
theorem definition_of_mem_globals {lines : List Line} {entry : Text × Symbol}
    (member : entry ∈ (after lines {}).table.globals) (kind : entry.2.kind.label = "var") :
    ∃ line ∈ lines, .definition entry.2 ∈ line.statement.registrations := by
  rw [after_table] at member
  rcases SymbolTable.mem_globals_registerAll member with before | offered
  · cases before
  obtain ⟨registration, registered, offers⟩ := List.mem_filterMap.mp offered
  obtain ⟨line, present, registered⟩ := List.mem_flatMap.mp registered
  refine ⟨line, present, ?_⟩
  cases Statement.registers_of_mem_registrations registration registered with
  | definition => rwa [← Option.some.inj offers]
  | constant | parameter =>
    rw [← Option.some.inj offers] at kind
    cases kind
  | array | function => cases offers

theorem mem_arrays_after {lines : List Line} {line : Line} {array : ArraySymbol} (state : State)
    (member : line ∈ lines) (registered : .array array ∈ line.statement.registrations) :
    array.name.lower ∈ (after lines state).table.arrays.names := by
  rw [after_table]
  exact SymbolTable.mem_arrays_registerAll _ (List.mem_flatMap.mpr ⟨line, member, registered⟩)

/-- An access whose literal index lies outside the bounds of its array is reported. -/
theorem mem_diagnostics_of_access {config : Config} {source : Text} {before later : List Line}
    {line : Line} {access : Text × Int} {array : ArraySymbol}
    (cut : Line.contentOf source = before ++ line :: later)
    (member : access ∈ line.statement.accesses)
    (known : (after (before ++ [line]) {}).table.array? access.1 = some array)
    (outside : array.contains access.2 = false) :
    (Finding.indexOutOfBounds access.2 access.1 array).on line.number ∈
      (outcome config source).diagnostics := by
  have found : Finding.indexOutOfBounds access.2 access.1 array ∈
      findings config line (after before {}) := by
    refine mem_findings_iff.mpr (List.mem_flatMap.mpr ⟨access, member, ?_⟩)
    rw [after_append] at known
    have looked : (Rule.registered line.statement (after before {}).table).array? access.1 =
        some array := known
    simp [Rule.accessFindings, looked, Rule.whenever, outside]
  exact mem_diagnostics_of_mem_findings cut found

/-- A variable that is declared alone with bounds is listed among the arrays, and from its line on
each access to it with a literal index is compared with bounds. -/
theorem array_declared_alone_is_bounded {config : Config} {source : Text} {check : Check}
    (ran : run config source = .ok check) {entry : ListingEntry}
    (listed : entry ∈ Listing.entriesIn "GLOBAL __global__" check.symbols)
    (kind : entry.kind = "var") (bounds : TypeText.HasBounds entry.type)
    (alone : ContentLine source entry.line Statement.DeclaresAlone) :
    entry.name.lower ∈ Listing.keysIn "ARRAYS" check.symbols ∧
    ∀ before line later, Line.contentOf source = before ++ line :: later →
      entry.line ≤ line.number → ∀ access ∈ line.statement.accesses,
        access.1.lower = entry.name.lower →
        ∃ array, (after (before ++ [line]) {}).table.array? access.1 = some array ∧
          (array.contains access.2 = false →
            (Finding.indexOutOfBounds access.2 access.1 array).on line.number ∈
              check.diagnostics) := by
  obtain ⟨rfl, -⟩ := run_eq_ok ran
  obtain ⟨single, singleIn, number, alone⟩ := alone
  have content := Line.anyContent_of_mem singleIn
  obtain ⟨stored, held, rfl⟩ := mem_globals_of_mem_symbols content listed
  obtain ⟨declaring, declaringIn, defined⟩ := definition_of_mem_globals held kind
  obtain ⟨declares, sameLine, names, declared, named⟩ :=
    Statement.declared_of_mem_registrations defined
  -- The line that the variable carries is the one that declares a single name.
  obtain rfl : single = declaring :=
    Line.eq_of_number_eq singleIn declaringIn (number.trans sameLine)
  obtain ⟨lower, upper, read⟩ := alone.array?_eq declared named bounds
  have registered := Statement.array_mem_registrations declares read
  constructor
  · rw [symbols_outcome content, (keyed_after _).keysIn_listing, if_neg (by decide),
      if_neg (by decide), if_pos rfl]
    exact mem_arrays_after {} singleIn registered
  · intro before line later cut bound access accessed spelled
    have reached := Line.mem_of_number_le cut singleIn (number ▸ bound)
    have known : stored.2.entry.name.lower ∈ (after (before ++ [line]) {}).table.arrays.names :=
      mem_arrays_after {} reached registered
    rw [← spelled, ← SymbolTable.isSome_array?_iff] at known
    obtain ⟨array, found⟩ := Option.isSome_iff_exists.mp known
    exact ⟨array, found, mem_diagnostics_of_access cut accessed found⟩

/-- The type of the arrays below has bounds. -/
private theorem hasBounds_oneToFive : TypeText.HasBounds "ARRAY[1:5] OF INTEGER" := by
  refine ⟨⟨false, ['1']⟩, ⟨false, ['5']⟩, " OF INTEGER",
    ⟨by decide, List.all_eq_true.mp (by decide)⟩, ⟨by decide, List.all_eq_true.mp (by decide)⟩, ?_⟩
  show Text.Spells " OF INTEGER" _ ("ARRAY".toList ++ ("[".toList ++ (['1'] ++ (":".toList ++
    (['5'] ++ ("]".toList ++ " OF INTEGER".toList))))))
  have token {token : Text} (nonempty : token ≠ []) (solid : token.all (!isBlank ·) = true) :
      token.IsSolid := Text.isSolid_of_all nonempty solid
  exact .glued (token (by decide) (by decide)) (.glued (token (by decide) (by decide))
    (.glued (token (by decide) (by decide)) (.glued (token (by decide) (by decide))
      (.glued (token (by decide) (by decide)) (.glued (token (by decide) (by decide)) .nil)))))

/-- An array that is declared alone is listed with its bounds, and an index outside them is
reported. -/
theorem index_outside_single_array :
    ∃ check, run {} "DECLARE a :  ARRAY[1:5]  OF INTEGER\nOUTPUT A[9]" = .ok check ∧
      Text.lower "a" ∈ Listing.keysIn "ARRAYS" check.symbols ∧
      (Finding.indexOutOfBounds 9 "A" ⟨"a", 1, 5, 1⟩).on 2 ∈ check.diagnostics := by
  let check := outcome {} "DECLARE a :  ARRAY[1:5]  OF INTEGER\nOUTPUT A[9]"
  have facts : (run {} "DECLARE a :  ARRAY[1:5]  OF INTEGER\nOUTPUT A[9]").isOk = true ∧
      ⟨"a", "var", "ARRAY[1:5] OF INTEGER", 1⟩ ∈
        Listing.entriesIn "GLOBAL __global__" check.symbols := by
    decide +kernel
  obtain ⟨succeeds, listed⟩ := facts
  have ran := run_of_isOk {} _ succeeds
  have alone : ContentLine "DECLARE a :  ARRAY[1:5]  OF INTEGER\nOUTPUT A[9]" 1
      Statement.DeclaresAlone :=
    ⟨⟨1, "DECLARE a :  ARRAY[1:5]  OF INTEGER"⟩, by decide +kernel, rfl, ' ', "a ",
      "  ARRAY[1:5]  OF INTEGER", by decide, by decide, by decide, by decide +kernel⟩
  obtain ⟨bounded, compared⟩ :=
    array_declared_alone_is_bounded ran listed rfl hasBounds_oneToFive alone
  obtain ⟨array, found, reported⟩ := compared
    [⟨1, "DECLARE a :  ARRAY[1:5]  OF INTEGER"⟩] ⟨2, "OUTPUT A[9]"⟩ [] (by decide +kernel)
    (by decide) ("A", 9) (by decide +kernel) (by decide)
  have same : array = ⟨"a", 1, 5, 1⟩ := by
    refine Option.some.inj (found.symm.trans ?_)
    decide +kernel
  subst same
  exact ⟨_, ran, bounded, reported (by decide)⟩

/-- Arrays that are declared in a list of names are listed as variables only, and no index is
compared with their bounds. -/
theorem name_list_leaves_no_bounds :
    ∃ check, run {} "DECLARE a, b : ARRAY[1:5] OF INTEGER\nOUTPUT a[9]" = .ok check ∧
      ⟨"a", "var", "ARRAY[1:5] OF INTEGER", 1⟩ ∈
        Listing.entriesIn "GLOBAL __global__" check.symbols ∧
      TypeText.HasBounds "ARRAY[1:5] OF INTEGER" ∧
      Text.lower "a" ∉ Listing.keysIn "ARRAYS" check.symbols ∧ check.diagnostics = [] := by
  let check := outcome {} "DECLARE a, b : ARRAY[1:5] OF INTEGER\nOUTPUT a[9]"
  have facts : (run {} "DECLARE a, b : ARRAY[1:5] OF INTEGER\nOUTPUT a[9]").isOk = true ∧
      ⟨"a", "var", "ARRAY[1:5] OF INTEGER", 1⟩ ∈
        Listing.entriesIn "GLOBAL __global__" check.symbols ∧
      Text.lower "a" ∉ Listing.keysIn "ARRAYS" check.symbols ∧ check.diagnostics = [] := by
    decide +kernel
  obtain ⟨succeeds, listed, unbounded, accepted⟩ := facts
  exact ⟨check, run_of_isOk {} _ succeeds, listed, hasBounds_oneToFive, unbounded, accepted⟩

end Check

end PseudoLint
