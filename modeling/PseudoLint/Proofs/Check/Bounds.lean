import PseudoLint.Proofs.Check.ArrayDeclaration

/-! # Bounds in force

An access with a literal index is compared with the bounds that the table holds at its line. These
are the bounds of the last declaration of the array on the line or above it: a later declaration
overwrites an earlier one, a declaration on the line itself is read before its accesses, and what
stands below plays no part. The induction goes over the lines and carries what the table answers for
the name. The message tells the name, the index and the bounds, so a diagnostic on an index stands
on a line exactly if such an access stands there. -/

namespace PseudoLint

/-! ## The message -/

namespace Diagnostic

/-- The diagnostic on an index outside the bounds of an array. -/
def outOfBounds (line : Int) (name : Text) (index lower upper : Int) : Diagnostic :=
  ⟨line, "Array index " ++ Numeral.ofInt index ++ " is out of bounds. Array '" ++ name ++
    "' valid range is " ++ ("[" ++ Numeral.ofInt lower ++ ":" ++ Numeral.ofInt upper ++ "]"),
    .error, "E040"⟩

theorem message_outOfBounds (line : Int) (name : Text) (index lower upper : Int) :
    (outOfBounds line name index lower upper).message =
      "Array index " ++ (Numeral.ofInt index ++ ' ' :: ("is out of bounds. Array '" ++
        (name ++ "' valid range is " ++ '[' ::
          (Numeral.ofInt lower ++ ':' :: (Numeral.ofInt upper ++ "]"))))) := by
  unfold outOfBounds
  dsimp only
  repeat rw [String.toList_ofList]
  simp only [List.append_assoc, List.cons_append, List.nil_append]

/-- The diagnostic on an index tells everything that it quotes, whatever the name is. -/
theorem outOfBounds_inj {line other : Int} {name word : Text}
    {index lower upper number low high : Int}
    (same : outOfBounds line name index lower upper = outOfBounds other word number low high) :
    name = word ∧ index = number ∧ lower = low ∧ upper = high := by
  have messages := congrArg Diagnostic.message same
  rw [message_outOfBounds, message_outOfBounds] at messages
  obtain ⟨indices, rest⟩ := Text.append_cons_inj (Numeral.space_not_mem_ofInt index)
    (Numeral.space_not_mem_ofInt number) (List.append_cancel_left messages)
  -- The name is any text, but no bracket opens behind that of the range.
  have single : ∀ a b : Int, '[' ∉ Numeral.ofInt a ++ ':' :: (Numeral.ofInt b ++ "]") := by
    intro a b
    have absent := Numeral.not_mem_ofInt (c := '[') (by decide) (by decide)
    simp [absent a, absent b]
  obtain ⟨names, ranges⟩ := Text.append_cons_inj_last (single lower upper) (single low high)
    (List.append_cancel_left rest)
  have colon := Numeral.not_mem_ofInt (c := ':') (by decide) (by decide)
  obtain ⟨lowers, uppers⟩ := Text.append_cons_inj (colon lower) (colon low) ranges
  exact ⟨List.append_cancel_right names, Numeral.ofInt_injective indices,
    Numeral.ofInt_injective lowers, Numeral.ofInt_injective (List.append_cancel_right uppers)⟩

end Diagnostic

namespace Finding

theorem exists_indexOutOfBounds {finding : Finding} (code : finding.code = "E040") :
    ∃ index name array, finding = indexOutOfBounds index name array := by
  unfold Finding.code at code
  cases finding with
  | indexOutOfBounds index name array => exact ⟨index, name, array, rfl⟩
  | _ => simp at code

theorem on_indexOutOfBounds (line index : Int) (name : Text) (array : ArraySymbol) :
    (indexOutOfBounds index name array).on line =
      Diagnostic.outOfBounds line name index array.lower array.upper :=
  rfl

end Finding

/-! ## Declared bounds -/

namespace Statement

/-- A declaration that gives bounds to the array of a lower-case name. -/
def DeclaresBounds (statement : Statement) (key : Text) (lower upper : Int) : Prop :=
  statement.startsWith "DECLARE" = true ∧ ∃ name low high,
    Form.arrayDeclaration.first? statement.code = some (name, low, high) ∧ name.lower = key ∧
      low.number = lower ∧ high.number = upper

/-- The array that a line declares under a lower-case name. -/
def boundsOf? (key : Text) (statement : Statement) : Option ArraySymbol :=
  if statement.startsWith "DECLARE" then statement.array?.filter (·.hasKey key) else none

theorem declaresBounds_iff {statement : Statement} {key : Text} {lower upper : Int} :
    statement.DeclaresBounds key lower upper ↔
      ∃ array, statement.boundsOf? key = some array ∧ array.lower = lower ∧
        array.upper = upper := by
  unfold DeclaresBounds boundsOf? array?
  constructor
  · rintro ⟨declares, name, low, high, read, rfl, rfl, rfl⟩
    refine ⟨⟨name, low.number, high.number, statement.line⟩, ?_, rfl, rfl⟩
    rw [if_pos declares, read]
    simp [ArraySymbol.hasKey]
  · rintro ⟨array, found, rfl, rfl⟩
    split at found
    · rename_i declares
      obtain ⟨read, named⟩ := Option.filter_eq_some_iff.mp found
      obtain ⟨⟨name, low, high⟩, form, rfl⟩ := Option.map_eq_some_iff.mp read
      exact ⟨declares, name, low, high, form, beq_iff_eq.mp named, rfl, rfl⟩
    · cases found

/-- Of what a line registers only the array of a declaration concerns bounds. -/
theorem lastArray_registrations (key : Text) (statement : Statement) :
    lastArray key statement.registrations = statement.boundsOf? key := by
  have constants : statement.constantRegistrations.filterMap Registration.array? = [] := by
    unfold constantRegistrations
    split <;> simp [Registration.array?]
  have headers : statement.headerRegistrations.filterMap Registration.array? = [] := by
    unfold headerRegistrations
    dsimp only
    split
    · simp [Registration.array?]
    split <;> simp [Registration.array?]
  have definitions : ((Rule.declaredNames? statement).elim [] fun declared =>
      definitions statement.line declared.2 declared.1).filterMap Registration.array? = [] := by
    cases Rule.declaredNames? statement with
    | none => rfl
    | some declared => simp [PseudoLint.definitions, Registration.array?]
  have offered : statement.variableRegistrations.filterMap Registration.array? =
      if statement.startsWith "DECLARE" then statement.array?.toList else [] := by
    unfold variableRegistrations
    split
    · rw [List.filterMap_append, definitions, List.nil_append]
      cases statement.array? <;> rfl
    · rfl
  rw [lastArray, registrations, List.filterMap_append, List.filterMap_append, constants, headers,
    offered, List.append_nil, List.append_nil, boundsOf?]
  split
  · cases statement.array? with
    | none => rfl
    | some array => cases named : array.hasKey key <;> simp [Option.filter, named]
  · rfl

end Statement

/-! ## Bounds after some lines -/

namespace Line

/-- The bounds that count for a lower-case name on a line: those of the last declaration with bounds
of that name on the line or above it. -/
def LatestBounds (source : Text) (number : Int) (key : Text) (lower upper : Int) : Prop :=
  ∃ declaring ∈ contentOf source, declaring.number ≤ number ∧
    declaring.statement.DeclaresBounds key lower upper ∧
    ∀ other ∈ contentOf source, declaring.number < other.number → other.number ≤ number →
      ¬ ∃ low high, other.statement.DeclaresBounds key low high

/-- The lines up to a line are those whose numbers are not greater. -/
theorem mem_cut_iff {source : Text} {before later : List Line} {line other : Line}
    (cut : contentOf source = before ++ line :: later) :
    other ∈ before ++ [line] ↔ other ∈ contentOf source ∧ other.number ≤ line.number := by
  constructor
  · intro member
    have ordered := pairwise_contentOf source
    rw [cut] at ordered ⊢
    rcases List.mem_append.mp member with earlier | here
    · have less := (List.pairwise_append.mp ordered).2.2 other earlier line List.mem_cons_self
      exact ⟨List.mem_append_left _ earlier, by omega⟩
    · rw [List.mem_singleton.mp here]
      exact ⟨List.mem_append_right _ List.mem_cons_self, Int.le_refl _⟩
  · rintro ⟨present, bound⟩
    exact mem_of_number_le cut present bound

theorem descending_cut {source : Text} {before later : List Line} {line : Line}
    (cut : contentOf source = before ++ line :: later) :
    (before ++ [line]).reverse.Pairwise fun first second => second.number < first.number := by
  have ordered := pairwise_contentOf source
  rw [cut, List.append_cons] at ordered
  exact List.pairwise_reverse.mpr (List.pairwise_append.mp ordered).1

/-- From the last line on, the first value is that of the line with the greatest number that has
one. -/
theorem findSome?_eq_some_iff {α : Type} {lines : List Line} {read : Line → Option α} {value : α}
    (descending : lines.Pairwise fun first second => second.number < first.number) :
    lines.findSome? read = some value ↔ ∃ line ∈ lines, read line = some value ∧
      ∀ other ∈ lines, line.number < other.number → read other = none := by
  constructor
  · intro found
    obtain ⟨behind, line, front, rfl, here, misses⟩ := List.findSome?_eq_some_iff.mp found
    refine ⟨line, List.mem_append_right _ List.mem_cons_self, here, fun other member greater => ?_⟩
    rcases List.mem_append.mp member with later | rest
    · exact misses other later
    · rcases List.mem_cons.mp rest with rfl | earlier
      · omega
      · have less :=
          (List.pairwise_cons.mp (List.pairwise_append.mp descending).2.1).1 other earlier
        omega
  · rintro ⟨line, member, here, latest⟩
    obtain ⟨behind, front, rfl⟩ := List.append_of_mem member
    refine List.findSome?_eq_some_iff.mpr ⟨behind, line, front, rfl, here, fun other later => ?_⟩
    have greater := (List.pairwise_append.mp descending).2.2 other later line List.mem_cons_self
    exact latest other (List.mem_append_left _ later) greater

end Line

namespace Check

theorem array?_registered (statement : Statement) (table : SymbolTable) (name : Text) :
    (Rule.registered statement table).array? name =
      (statement.boundsOf? name.lower).or (table.array? name) := by
  rw [Rule.registered_eq, SymbolTable.array?_registerAll, Statement.lastArray_registrations]

/-- After some lines the table holds the array of the last line that declares one. -/
theorem array?_after (lines : List Line) (state : State) (name : Text) :
    (after lines state).table.array? name =
      (lines.reverse.findSome? (·.statement.boundsOf? name.lower)).or
        (state.table.array? name) := by
  induction lines generalizing state with
  | nil => rfl
  | cons line rest ih =>
    rw [after_cons, ih, advance, array?_registered, List.reverse_cons, List.findSome?_append,
      List.findSome?_singleton, Option.or_assoc]

/-- The bounds that count on a line are those that the table holds there. -/
theorem latestBounds_iff {source : Text} {before later : List Line} {line : Line}
    (cut : Line.contentOf source = before ++ line :: later) {name : Text} {lower upper : Int} :
    Line.LatestBounds source line.number name.lower lower upper ↔
      ∃ array, (after (before ++ [line]) {}).table.array? name = some array ∧
        array.lower = lower ∧ array.upper = upper := by
  have looked : (after (before ++ [line]) {}).table.array? name =
      (before ++ [line]).reverse.findSome? (·.statement.boundsOf? name.lower) := by
    rw [array?_after]
    exact Option.or_none
  have reached : ∀ other, other ∈ (before ++ [line]).reverse ↔
      other ∈ Line.contentOf source ∧ other.number ≤ line.number :=
    fun other => List.mem_reverse.trans (Line.mem_cut_iff cut)
  rw [looked]
  simp only [Line.findSome?_eq_some_iff (Line.descending_cut cut), reached]
  constructor
  · rintro ⟨declaring, present, bound, declares, latest⟩
    obtain ⟨array, found, lowers, uppers⟩ := Statement.declaresBounds_iff.mp declares
    refine ⟨array, ⟨declaring, ⟨present, bound⟩, found, ?_⟩, lowers, uppers⟩
    intro other ⟨inSource, above⟩ greater
    refine Option.eq_none_iff_forall_ne_some.mpr fun overwriting again => ?_
    exact latest other inSource greater above
      ⟨_, _, Statement.declaresBounds_iff.mpr ⟨overwriting, again, rfl, rfl⟩⟩
  · rintro ⟨array, ⟨declaring, ⟨present, bound⟩, found, latest⟩, lowers, uppers⟩
    refine ⟨declaring, present, bound,
      Statement.declaresBounds_iff.mpr ⟨array, found, lowers, uppers⟩, ?_⟩
    rintro other inSource greater above ⟨low, high, again⟩
    obtain ⟨overwriting, declared, -, -⟩ := Statement.declaresBounds_iff.mp again
    rw [latest other ⟨inSource, above⟩ greater] at declared
    cases declared

/-- Every diagnostic on an index comes from an access and from bounds that do not contain it. -/
theorem exists_access_of_code {config : Config} {source : Text} {diagnostic : Diagnostic}
    (member : diagnostic ∈ (outcome config source).diagnostics) (code : diagnostic.code = "E040") :
    ∃ before line later name index array, Line.contentOf source = before ++ line :: later ∧
      diagnostic = Diagnostic.outOfBounds line.number name index array.lower array.upper ∧
      (name, index) ∈ line.statement.accesses ∧
      (after (before ++ [line]) {}).table.array? name = some array ∧
      array.contains index = false := by
  obtain ⟨⟨number, finding⟩, rfl, origin⟩ :=
    report_of_mem_emitted (Diagnostic.mem_of_mem_dedup member)
  obtain ⟨index, name, array, rfl⟩ := Finding.exists_indexOutOfBounds code
  obtain ⟨before, line, later, cut, rfl, found⟩ :=
    mem_reports_iff.mp (origin.resolve_right Bool.false_ne_true)
  obtain ⟨⟨spelled, position⟩, accessed, judged⟩ := List.mem_flatMap.mp (mem_findings_iff.mp found)
  dsimp only [Rule.accessFindings] at judged
  split at judged
  · rename_i known looked
    obtain ⟨outside, same⟩ := Rule.mem_whenever.mp judged
    cases same
    refine ⟨before, line, later, name, index, array, cut, rfl, accessed, ?_,
      (Bool.not_eq_true' _).mp outside⟩
    rw [after_append]
    exact looked
  · cases judged

/-- An index is reported on a line exactly if the line has such an access and the last declaration
of its array, on the line or above, has bounds that do not contain it. Every diagnostic on an index
is of this kind. -/
theorem index_judged_by_latest_bounds {config : Config} {source : Text} {check : Check}
    (ran : run config source = .ok check) :
    (∀ number name index lower upper,
      Diagnostic.outOfBounds number name index lower upper ∈ check.diagnostics ↔
        ∃ line ∈ Line.contentOf source, line.number = number ∧
          (name, index) ∈ line.statement.accesses ∧
          Line.LatestBounds source number name.lower lower upper ∧
          ¬ (lower ≤ index ∧ index ≤ upper)) ∧
    ∀ diagnostic ∈ check.diagnostics, diagnostic.code = "E040" →
      ∃ number name index lower upper,
        diagnostic = Diagnostic.outOfBounds number name index lower upper := by
  obtain ⟨rfl, -⟩ := run_eq_ok ran
  refine ⟨fun number name index lower upper => ⟨?_, ?_⟩, ?_⟩
  · intro reported
    obtain ⟨before, line, later, word, position, array, cut, same, accessed, known, outside⟩ :=
      exists_access_of_code reported rfl
    obtain rfl : number = line.number := congrArg Diagnostic.line same
    obtain ⟨rfl, rfl, rfl, rfl⟩ := Diagnostic.outOfBounds_inj same
    refine ⟨line, ?_, rfl, accessed, (latestBounds_iff cut).mpr ⟨array, known, rfl, rfl⟩,
      of_decide_eq_false outside⟩
    rw [cut]
    exact List.mem_append_right _ List.mem_cons_self
  · rintro ⟨line, present, rfl, accessed, latest, outside⟩
    obtain ⟨before, later, cut⟩ := List.append_of_mem present
    obtain ⟨array, known, rfl, rfl⟩ := (latestBounds_iff cut).mp latest
    have found : _ ∈ (outcome config source).diagnostics :=
      mem_diagnostics_of_access cut accessed known (decide_eq_false outside)
    rwa [Finding.on_indexOutOfBounds] at found
  · intro diagnostic reported code
    obtain ⟨before, line, later, name, index, array, -, same, -⟩ :=
      exists_access_of_code reported code
    exact ⟨line.number, name, index, array.lower, array.upper, same⟩

/-- The bound itself is inside, an inverted range contains no index, and the declaration below the
last access plays no part. -/
theorem index_in_inverted_range_reported :
    let source : Text := "DECLARE a : ARRAY[-2:2] OF REAL\nOUTPUT a[-2], A[3]\n" ++
      "DECLARE a : ARRAY[3:1] OF REAL\nOUTPUT a[2]\nDECLARE a : ARRAY[1:9] OF REAL"
    ∃ check, run {} source = .ok check ∧
      Diagnostic.outOfBounds 2 "A" 3 (-2) 2 ∈ check.diagnostics ∧
      Diagnostic.outOfBounds 2 "a" (-2) (-2) 2 ∉ check.diagnostics ∧
      Diagnostic.outOfBounds 4 "a" 2 3 1 ∈ check.diagnostics ∧
      Line.LatestBounds source 4 (Text.lower "a") 3 1 := by
  intro source
  have facts : (run {} source).isOk = true ∧
      Diagnostic.outOfBounds 2 "A" 3 (-2) 2 ∈ (outcome {} source).diagnostics ∧
      Diagnostic.outOfBounds 4 "a" 2 3 1 ∈ (outcome {} source).diagnostics := by
    decide +kernel
  obtain ⟨returns, above, inverted⟩ := facts
  have ran := run_of_isOk {} source returns
  have judged := (index_judged_by_latest_bounds ran).1
  obtain ⟨line, -, number, -, latest, -⟩ := (judged 4 "a" 2 3 1).mp inverted
  refine ⟨_, ran, above, fun reported => ?_, inverted, latest⟩
  obtain ⟨line, -, -, -, -, outside⟩ := (judged 2 "a" (-2) (-2) 2).mp reported
  exact outside (by decide)

end Check

end PseudoLint
