import PseudoLint.Proofs.Check.Step
import PseudoLint.Proofs.Line

/-! # What a whole check does

A check that no number stops is a function of the source: the lines with content are taken in order,
each advancing the state and leaving its findings, and the blocks that remain and the sweeps follow.
`run_of_readable` gives this outcome, `run_of_overlong` the failure of every other source, and
`run_eq_ok` says that nothing else is ever answered.
-/

namespace PseudoLint

namespace Line

/-- The lines of a source that carry something to check. -/
def contentOf (source : Text) : List Line :=
  (ofSource source).filter isContent

theorem mem_contentOf {source : Text} {line : Line} :
    line ∈ contentOf source ↔ line ∈ ofSource source ∧ line.isContent = true :=
  List.mem_filter

theorem anyContent_of_mem {source : Text} {line : Line} (member : line ∈ contentOf source) :
    anyContent (ofSource source) = true :=
  List.any_eq_true.mpr ⟨line, mem_contentOf.mp member⟩

theorem contentOf_eq_nil_iff {source : Text} :
    contentOf source = [] ↔ anyContent (ofSource source) = false := by
  simp only [contentOf, List.filter_eq_nil_iff, anyContent, List.any_eq_false]

/-- A source that is made of lines with content has exactly these lines. -/
theorem contentOf_join {raws : List Text} (nonempty : raws ≠ []) (free : ∀ raw ∈ raws, '\n' ∉ raw)
    (content : ∀ line ∈ enumerate 1 raws, line.isContent = true) :
    contentOf (Text.join ['\n'] raws) = enumerate 1 raws := by
  rw [contentOf, ofSource_join nonempty free]
  exact List.filter_eq_self.mpr content

theorem map_statement_contentOf (source : Text) :
    (contentOf source).map statement =
      ((ofSource source).map statement).filter Statement.isContent := by
  rw [List.filter_map]
  rfl

/-- A line that begins with its statement is not indented, so no unit is written for it. -/
theorem overlong_iff_of_solid {config : Config} {line : Line}
    (begins : ∃ c rest, line.raw = c :: rest ∧ isBlank c = false) :
    line.Overlong config ↔ line.statement.Overlong :=
  overlong_iff_of_layout (Rule.layoutFindings_of_flush config (indent_eq_zero begins))

theorem pairwise_contentOf (source : Text) :
    (contentOf source).Pairwise fun earlier later => earlier.number < later.number :=
  (pairwise_enumerate 1 source.lines).filter _

end Line

namespace Check

/-! ## The line pass -/

/-- What is known after some lines with content. -/
def after (lines : List Line) (state : State) : State :=
  lines.foldl (fun state line => advance line.statement state) state

/-- The findings on some lines with content, each with the number of its line. -/
def reports (config : Config) : List Line → State → List (Int × Finding)
  | [], _ => []
  | line :: rest, state =>
    (findings config line state).map (line.number, ·) ++
      reports config rest (advance line.statement state)

/-- A finding with the number of its line as a diagnostic. -/
def worded (report : Int × Finding) : Diagnostic :=
  report.2.on report.1

@[simp] theorem after_nil (state : State) : after [] state = state := rfl

@[simp] theorem after_cons (line : Line) (rest : List Line) (state : State) :
    after (line :: rest) state = after rest (advance line.statement state) := rfl

theorem reports_append (config : Config) (first second : List Line) (state : State) :
    reports config (first ++ second) state =
      reports config first state ++ reports config second (after first state) := by
  induction first generalizing state with
  | nil => rfl
  | cons line rest ih => simp only [List.cons_append, reports, ih, after_cons, List.append_assoc]

/-- Every report is a finding of its line in the state that the lines before it leave. -/
theorem mem_reports_iff {config : Config} {lines : List Line} {state : State}
    {report : Int × Finding} :
    report ∈ reports config lines state ↔
      ∃ before line later, lines = before ++ line :: later ∧ report.1 = line.number ∧
        report.2 ∈ findings config line (after before state) := by
  constructor
  · intro member
    induction lines generalizing state with
    | nil => cases member
    | cons line rest ih =>
      rcases List.mem_append.mp member with here | there
      · obtain ⟨finding, found, rfl⟩ := List.mem_map.mp here
        exact ⟨[], line, rest, rfl, rfl, found⟩
      · obtain ⟨before, other, later, rfl, number, found⟩ := ih there
        exact ⟨line :: before, other, later, rfl, number, found⟩
  · rintro ⟨before, line, later, rfl, number, found⟩
    rw [reports_append]
    refine List.mem_append_right _ (List.mem_append_left _ ?_)
    exact List.mem_map.mpr ⟨report.2, found, Prod.ext number.symm rfl⟩

theorem after_known {lines : List Line} {state : State} (known : state.blocks.Known) :
    (after lines state).blocks.Known := by
  induction lines generalizing state with
  | nil => exact known
  | cons line rest ih => exact ih (advance_known line.statement known)

/-- Lines without content are passed over. -/
theorem pass_filter (config : Config) (lines : List Line) (state : State) :
    pass config lines state = pass config (lines.filter Line.isContent) state := by
  induction lines generalizing state with
  | nil => rfl
  | cons line rest ih =>
    cases content : line.isContent with
    | true => simp only [List.filter_cons, pass, content, ↓reduceIte, ih]
    | false => simp only [List.filter_cons, pass, content, Bool.false_eq_true, ↓reduceIte, ih]

theorem pass_of_readable {config : Config} {lines : List Line} {state : State}
    (unit : config.indentUnit ≠ 0) (known : state.blocks.Known)
    (content : ∀ line ∈ lines, line.isContent = true)
    (readable : ∀ line ∈ lines, ¬ line.Overlong config) :
    pass config lines state =
      .ok (after lines state, (reports config lines state).map worded) := by
  induction lines generalizing state with
  | nil => rfl
  | cons line rest ih =>
    have here := inspect_of_readable unit known (readable line List.mem_cons_self)
    have there := ih (advance_known line.statement known)
      (fun other member => content other (List.mem_cons_of_mem _ member))
      (fun other member => readable other (List.mem_cons_of_mem _ member))
    simp only [pass, content line List.mem_cons_self, ↓reduceIte, here, there, bind, Except.bind,
      pure, Except.pure, reports, List.map_append, List.map_map, after_cons]
    rfl

theorem pass_of_overlong {config : Config} {lines : List Line} {state : State}
    (unit : config.indentUnit ≠ 0) (known : state.blocks.Known)
    (content : ∀ line ∈ lines, line.isContent = true)
    (long : ∃ line ∈ lines, line.Overlong config) :
    ∃ fault, fault.Overlong config ∧ pass config lines state = .error fault := by
  induction lines generalizing state with
  | nil => simp at long
  | cons line rest ih =>
    -- The pass stops at the first overlong line, so the induction only goes past readable ones.
    by_cases here : line.Overlong config
    · obtain ⟨fault, overlong, failed⟩ := inspect_of_overlong unit known here
      refine ⟨fault, overlong, ?_⟩
      simp only [pass, content line List.mem_cons_self, ↓reduceIte, failed, bind, Except.bind]
    · have there : ∃ other ∈ rest, other.Overlong config := by simpa [here] using long
      obtain ⟨fault, overlong, failed⟩ := ih (advance_known line.statement known)
        (fun other member => content other (List.mem_cons_of_mem _ member)) there
      refine ⟨fault, overlong, ?_⟩
      simp only [pass, content line List.mem_cons_self, ↓reduceIte,
        inspect_of_readable unit known here, failed, bind, Except.bind]

/-! ## Blocks that remain open -/

/-- The report on a block that is never closed. -/
def unmatchedReport (frame : Frame) : Int × Finding :=
  (frame.line, .unmatchedOpener frame.keyword (frame.closer?.getD []))

theorem unmatched_eq {blocks : BlockStack} (known : blocks.Known) :
    unmatched blocks = .ok (blocks.unclosed.map fun frame => worded (unmatchedReport frame)) := by
  have opened : ∀ frame ∈ blocks.unclosed, Keyword.isOpener frame.keyword = true :=
    fun frame member => known frame (List.mem_reverse.mp member)
  apply mapM_eq_ok
  intro frame member
  obtain ⟨closer, closes⟩ := Option.isSome_iff_exists.mp (opened frame member)
  have found : frame.closer? = some closer := closes
  simp only [unmatchedFinding, worded, unmatchedReport, found, Option.getD_some]
  rfl

/-! ## The outcome -/

/-- What a check of a source answers if no line stops it. -/
def outcome (config : Config) (source : Text) : Check :=
  let lines := Line.ofSource source
  if Line.anyContent lines then
    let state := after (Line.contentOf source) {}
    ⟨lines.length, true,
      (reports config (Line.contentOf source) {}).map worded ++
        state.blocks.unclosed.map (fun frame => worded (unmatchedReport frame)) ++
          Sweep.all state.table (lines.map Line.statement),
      state⟩
  else ⟨lines.length, false, [Finding.noContent.on 1], {}⟩

theorem emitted_outcome {config : Config} {source : Text}
    (content : Line.anyContent (Line.ofSource source) = true) :
    (outcome config source).emitted =
      (reports config (Line.contentOf source) {}).map worded ++
        (after (Line.contentOf source) {}).blocks.unclosed.map
          (fun frame => worded (unmatchedReport frame)) ++
          Sweep.all (after (Line.contentOf source) {}).table
            ((Line.ofSource source).map Line.statement) := by
  simp only [outcome, content, ↓reduceIte]

theorem symbols_outcome {config : Config} {source : Text}
    (content : Line.anyContent (Line.ofSource source) = true) :
    (outcome config source).symbols = (after (Line.contentOf source) {}).table.listing := by
  simp only [symbols, outcome, content, ↓reduceIte]

/-- The state at the end is the one after the lines with content. -/
theorem state_outcome (config : Config) (source : Text) :
    (outcome config source).state = after (Line.contentOf source) {} := by
  cases content : Line.anyContent (Line.ofSource source) with
  | true => simp only [outcome, content, ↓reduceIte]
  | false =>
    simp only [outcome, content, Bool.false_eq_true, ↓reduceIte,
      Line.contentOf_eq_nil_iff.mpr content, after_nil]

/-- At the start no block is open. -/
theorem start_known : BlockStack.Known ({} : State).blocks := by
  intro frame member
  cases member

private theorem contentOf_content {source : Text} :
    ∀ line ∈ Line.contentOf source, line.isContent = true :=
  fun _ member => (Line.mem_contentOf.mp member).2

theorem run_of_readable {config : Config} {source : Text} (unit : config.indentUnit ≠ 0)
    (readable : ∀ line ∈ Line.contentOf source, ¬ line.Overlong config) :
    run config source = .ok (outcome config source) := by
  unfold run outcome
  dsimp only
  split
  · have passed := pass_of_readable unit start_known contentOf_content readable
    rw [pass_filter, ← Line.contentOf, passed]
    simp only [bind, Except.bind, unmatched_eq (after_known start_known), pure, Except.pure]
  · rfl

theorem run_of_overlong {config : Config} {source : Text} (unit : config.indentUnit ≠ 0)
    (long : ∃ line ∈ Line.contentOf source, line.Overlong config) :
    ∃ fault, fault.Overlong config ∧ run config source = .error fault := by
  obtain ⟨fault, overlong, failed⟩ :=
    pass_of_overlong unit start_known contentOf_content long
  refine ⟨fault, overlong, ?_⟩
  have content : Line.anyContent (Line.ofSource source) = true := by
    obtain ⟨line, member, -⟩ := long
    exact Line.anyContent_of_mem member
  simp only [run, content, ↓reduceIte, pass_filter config (Line.ofSource source), bind, Except.bind]
  rw [← Line.contentOf, failed]

/-- A unit of zero stops the pass at the first line with content. -/
theorem pass_of_zero_unit {config : Config} {line : Line} {rest : List Line} {state : State}
    (zero : config.indentUnit = 0) (content : line.isContent = true) :
    pass config (line :: rest) state = .error .zeroIndentUnit := by
  simp only [pass, content, ↓reduceIte, inspect, Rule.indentation, zero, bind, Except.bind]

theorem run_of_zero_unit {config : Config} {source : Text} {line : Line}
    (zero : config.indentUnit = 0) (member : line ∈ Line.contentOf source) :
    run config source = .error .zeroIndentUnit := by
  obtain ⟨first, rest, lines⟩ := List.exists_cons_of_ne_nil (List.ne_nil_of_mem member)
  have content : first.isContent = true :=
    contentOf_content first (by rw [lines]; exact List.mem_cons_self)
  simp only [run, Line.anyContent_of_mem member, ↓reduceIte,
    pass_filter config (Line.ofSource source), bind, Except.bind]
  rw [← Line.contentOf, lines, pass_of_zero_unit zero content]

/-- A source without content is answered whatever the unit of indentation. -/
theorem run_of_no_content {config : Config} {source : Text} (nothing : Line.contentOf source = []) :
    run config source = .ok (outcome config source) := by
  have empty := Line.contentOf_eq_nil_iff.mp nothing
  simp only [run, outcome, empty, Bool.false_eq_true, ↓reduceIte]

/-- A check that no line stops answers the outcome. -/
theorem run_of_unstopped {config : Config} {source : Text}
    (unstopped : ¬ ∃ line ∈ Line.contentOf source,
      config.indentUnit = 0 ∨ line.Overlong config) :
    run config source = .ok (outcome config source) := by
  cases lines : Line.contentOf source with
  | nil => exact run_of_no_content lines
  | cons line rest =>
    have member : line ∈ Line.contentOf source := by rw [lines]; exact List.mem_cons_self
    exact run_of_readable (fun zero => unstopped ⟨line, member, .inl zero⟩)
      fun other present long => unstopped ⟨other, present, .inr long⟩

/-- A check fails exactly if some line stops it, by a unit of zero or by an overlong number. -/
theorem run_error_iff {config : Config} {source : Text} :
    (∃ fault, run config source = .error fault) ↔
      ∃ line ∈ Line.contentOf source, config.indentUnit = 0 ∨ line.Overlong config := by
  constructor
  · rintro ⟨fault, failed⟩
    apply Classical.byContradiction
    intro unstopped
    rw [run_of_unstopped unstopped] at failed
    cases failed
  · rintro ⟨line, member, stops⟩
    by_cases zero : config.indentUnit = 0
    · exact ⟨_, run_of_zero_unit zero member⟩
    · obtain ⟨fault, -, failed⟩ := run_of_overlong zero ⟨line, member, stops.resolve_left zero⟩
      exact ⟨_, failed⟩

/-- A check answers exactly if no line stops it. -/
theorem exists_run_ok_iff {config : Config} {source : Text} :
    (∃ check, run config source = .ok check) ↔
      ∀ line ∈ Line.contentOf source, config.indentUnit ≠ 0 ∧ ¬ line.Overlong config := by
  constructor
  · rintro ⟨check, ran⟩ line member
    have unstopped : ¬ ∃ fault, run config source = .error fault := by
      rintro ⟨fault, failed⟩
      rw [ran] at failed
      cases failed
    rw [run_error_iff] at unstopped
    exact ⟨fun zero => unstopped ⟨line, member, .inl zero⟩,
      fun long => unstopped ⟨line, member, .inr long⟩⟩
  · intro passes
    refine ⟨_, run_of_unstopped ?_⟩
    rintro ⟨line, member, zero | long⟩
    · exact (passes line member).1 zero
    · exact (passes line member).2 long

/-- Only the outcome is ever answered, and only if no number stops the check. -/
theorem run_eq_ok {config : Config} {source : Text} {check : Check}
    (ran : run config source = .ok check) :
    check = outcome config source ∧
      ∀ line ∈ Line.contentOf source, ¬ line.Overlong config := by
  have unstopped : ¬ ∃ line ∈ Line.contentOf source,
      config.indentUnit = 0 ∨ line.Overlong config := by
    rw [← run_error_iff, ran]
    rintro ⟨fault, failed⟩
    cases failed
  refine ⟨?_, fun line member long => unstopped ⟨line, member, .inr long⟩⟩
  rw [run_of_unstopped unstopped] at ran
  exact (Except.ok.inj ran).symm

theorem run_of_isOk (config : Config) (source : Text)
    (returns : (run config source).isOk = true) :
    run config source = .ok (outcome config source) := by
  cases ran : run config source with
  | ok check => rw [(run_eq_ok ran).1]
  | error fault =>
    rw [ran] at returns
    cases returns

end Check

end PseudoLint
