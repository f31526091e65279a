import PseudoLint.Proofs.Check.Inert
import PseudoLint.Proofs.Check.Verdict

/-! # The place and the order of findings

Every finding stands on a line with content. The line pass and three of the sweeps go through the
lines in order and report each line when they come to it (`Follows.cons`). Two producers report
other lines than the one they look at. The sweep for wrong closing words reports a later line, but
the first such line after a loop never moves back from one loop to the next. The blocks that remain
open are reported by the lines that opened them, and no two of them were opened on one line: the
stack is always a sublist of the first words that were passed, latest first.
-/

namespace PseudoLint

/-- Diagnostics whose lines never decrease. -/
def Diagnostic.InOrder (diagnostics : List Diagnostic) : Prop :=
  diagnostics.Pairwise fun earlier later => earlier.line ≤ later.line

/-- Statements whose lines increase. -/
def Statement.Ascending (statements : List Statement) : Prop :=
  statements.Pairwise fun earlier later => earlier.line < later.line

/-- Diagnostics that stand on the lines of some statements, in the order of the lines. -/
structure Diagnostic.Follows (statements : List Statement) (diagnostics : List Diagnostic) :
    Prop where
  within : ∀ diagnostic ∈ diagnostics, ∃ statement ∈ statements, diagnostic.line = statement.line
  inOrder : Statement.Ascending statements → InOrder diagnostics

namespace Diagnostic

theorem follows_nil : Follows [] [] := by
  constructor
  · intro diagnostic member
    cases member
  · intro _
    exact .nil

/-- What is reported on a statement stands before what is reported on the statements after it. -/
theorem Follows.cons {statement : Statement} {rest : List Statement}
    {found others : List Diagnostic}
    (here : ∀ diagnostic ∈ found, diagnostic.line = statement.line)
    (later : Follows rest others) : Follows (statement :: rest) (found ++ others) := by
  constructor
  · intro diagnostic member
    rcases List.mem_append.mp member with first | second
    · exact ⟨statement, List.mem_cons_self, here diagnostic first⟩
    · obtain ⟨other, present, line⟩ := later.within diagnostic second
      exact ⟨other, List.mem_cons_of_mem _ present, line⟩
  · intro ascending
    obtain ⟨below, ascends⟩ := List.pairwise_cons.mp ascending
    refine List.pairwise_append.mpr ⟨?_, later.inOrder ascends, ?_⟩
    · apply List.pairwise_of_forall_mem_list
      intro first firstIn second secondIn
      have firstLine := here first firstIn
      have secondLine := here second secondIn
      omega
    · intro first firstIn second secondIn
      obtain ⟨other, present, secondLine⟩ := later.within second secondIn
      have firstLine := here first firstIn
      have before := below other present
      omega

end Diagnostic

/-! ## Sweeps -/

namespace Sweep

open Diagnostic (Follows InOrder)

theorem follows_extraClosersAfter (earlier statements : List Statement) :
    Follows statements (extraClosersAfter earlier statements) := by
  induction statements generalizing earlier with
  | nil => exact Diagnostic.follows_nil
  | cons statement rest ih =>
    refine Follows.cons ?_ (ih (statement :: earlier))
    intro diagnostic member
    unfold extraCloserAfter at member
    split at member
    · dsimp only at member
      split at member
      · rw [List.mem_singleton.mp member]
        rfl
      · cases member
    · cases member

theorem follows_lengths (table : SymbolTable) (statements : List Statement) :
    Follows statements (lengths table statements) := by
  induction statements with
  | nil => exact Diagnostic.follows_nil
  | cons statement rest ih =>
    rw [lengths, List.flatMap_cons]
    refine Follows.cons ?_ ih
    intro diagnostic member
    obtain ⟨name, -, found⟩ := List.mem_flatMap.mp member
    split at found
    · split at found
      · cases found
      · rw [List.mem_singleton.mp found]
        rfl
    · cases found

theorem follows_emptyFors (statements : List Statement) :
    Follows statements (emptyFors statements) := by
  induction statements with
  | nil => exact Diagnostic.follows_nil
  | cons statement rest ih =>
    refine Follows.cons ?_ ih
    intro diagnostic member
    split at member
    · rw [List.mem_singleton.mp member]
      rfl
    · cases member

/-- The sweep for wrong closing words reports lines that begin with one. -/
theorem exists_endfor_of_mem {statements : List Statement} {diagnostic : Diagnostic}
    (member : diagnostic ∈ endfors statements) :
    ∃ statement ∈ statements, statement.startsWith "ENDFOR" = true ∧
      diagnostic.line = statement.line := by
  induction statements with
  | nil => cases member
  | cons statement rest ih =>
    rw [endfors_cons] at member
    rcases List.mem_append.mp member with here | there
    · split at here
      · obtain ⟨ending, found, rfl⟩ := List.mem_map.mp here
        have first := Option.mem_toList.mp found
        have ends := List.find?_some first
        exact ⟨ending, List.mem_cons_of_mem _ (List.mem_of_find?_eq_some first), ends, rfl⟩
      · cases here
    · obtain ⟨other, present, line⟩ := ih there
      exact ⟨other, List.mem_cons_of_mem _ present, line⟩

/-- The first statement with a property stands on the least line. -/
theorem line_le_of_find? {holds : Statement → Bool} {statements : List Statement}
    {first other : Statement} (ascending : Statement.Ascending statements)
    (found : statements.find? holds = some first) (member : other ∈ statements)
    (also : holds other = true) : first.line ≤ other.line := by
  obtain ⟨-, before, later, rfl, misses⟩ := List.find?_eq_some_iff_append.mp found
  obtain ⟨-, ascends, -⟩ := List.pairwise_append.mp ascending
  rcases List.mem_append.mp member with early | rest
  · have absent := misses other early
    rw [also] at absent
    cases absent
  · rcases List.mem_cons.mp rest with rfl | behind
    · exact Int.le_refl _
    · have less := (List.pairwise_cons.mp ascends).1 other behind
      omega

theorem inOrder_endfors {statements : List Statement}
    (ascending : Statement.Ascending statements) : InOrder (endfors statements) := by
  induction statements with
  | nil => exact .nil
  | cons statement rest ih =>
    have ascends := (List.pairwise_cons.mp ascending).2
    rw [endfors_cons]
    refine List.pairwise_append.mpr ⟨?_, ih ascends, ?_⟩
    · split
      · cases rest.find? (·.startsWith "ENDFOR") with
        | none => exact .nil
        | some ending => exact List.pairwise_singleton ..
      · exact .nil
    · intro first firstIn second secondIn
      split at firstIn
      · obtain ⟨ending, found, rfl⟩ := List.mem_map.mp firstIn
        obtain ⟨other, present, ends, line⟩ := exists_endfor_of_mem secondIn
        rw [line]
        exact line_le_of_find? ascends (Option.mem_toList.mp found) present ends
      · cases firstIn

theorem follows_endfors (statements : List Statement) :
    Follows statements (endfors statements) := by
  constructor
  · intro diagnostic member
    obtain ⟨statement, present, -, line⟩ := exists_endfor_of_mem member
    exact ⟨statement, present, line⟩
  · exact inOrder_endfors

end Sweep

/-! ## The line pass -/

namespace Check

theorem follows_reports (config : Config) (lines : List Line) (state : State) :
    Diagnostic.Follows (lines.map Line.statement)
      ((reports config lines state).map worded) := by
  induction lines generalizing state with
  | nil => exact Diagnostic.follows_nil
  | cons line rest ih =>
    rw [reports, List.map_append, List.map_map]
    refine Diagnostic.Follows.cons ?_ (ih _)
    intro diagnostic member
    obtain ⟨finding, -, rfl⟩ := List.mem_map.mp member
    rfl

/-! ## Blocks that remain open -/

/-- The block that a line opens if its first word opens one. -/
def opening (line : Line) : Frame :=
  ⟨line.statement.firstWord, line.number⟩

/-- A line puts at most its own block on the stack and takes off at most one. -/
theorem turnBlocks_sublist (line : Line) (blocks : BlockStack) :
    (Rule.turnBlocks line.statement blocks).1.Sublist (opening line :: blocks) := by
  unfold Rule.turnBlocks
  dsimp only
  split
  · exact List.Sublist.refl _
  split
  · cases blocks with
    | nil => exact List.nil_sublist _
    | cons frame rest => exact (List.sublist_cons_self frame rest).cons _
  · exact List.sublist_cons_self _ _

theorem blocks_after_sublist (lines : List Line) (state : State) :
    (after lines state).blocks.Sublist ((lines.map opening).reverse ++ state.blocks) := by
  induction lines generalizing state with
  | nil => exact List.Sublist.refl _
  | cons line rest ih =>
    rw [after_cons, List.map_cons, List.reverse_cons, List.append_assoc, List.singleton_append]
    exact (ih _).trans ((turnBlocks_sublist line state.blocks).append_left _)

/-- The blocks that are open after some lines were opened by different ones of them, in order. -/
theorem unclosed_after_sublist (lines : List Line) :
    (after lines {}).blocks.unclosed.Sublist (lines.map opening) := by
  have turned := (blocks_after_sublist lines {}).reverse
  rwa [List.append_nil, List.reverse_reverse] at turned

/-- The diagnostics on the blocks that are open after some lines. -/
def unclosedDiagnostics (lines : List Line) : List Diagnostic :=
  (after lines {}).blocks.unclosed.map fun frame => worded (unmatchedReport frame)

theorem pairwise_unclosedDiagnostics {lines : List Line}
    (ascending : Statement.Ascending (lines.map Line.statement)) :
    (unclosedDiagnostics lines).Pairwise fun earlier later => earlier.line < later.line := by
  rw [Statement.Ascending, List.pairwise_map] at ascending
  have opened : (lines.map opening).Pairwise fun outer inner => outer.line < inner.line :=
    List.pairwise_map.mpr ascending
  exact List.pairwise_map.mpr (opened.sublist (unclosed_after_sublist lines))

theorem follows_unclosedDiagnostics (lines : List Line) :
    Diagnostic.Follows (lines.map Line.statement) (unclosedDiagnostics lines) := by
  constructor
  · intro diagnostic member
    obtain ⟨frame, remains, rfl⟩ := List.mem_map.mp member
    obtain ⟨line, present, rfl⟩ :=
      List.mem_map.mp ((unclosed_after_sublist lines).subset remains)
    exact ⟨line.statement, List.mem_map_of_mem present, rfl⟩
  · intro ascending
    exact (pairwise_unclosedDiagnostics ascending).imp Int.le_of_lt

/-! ## The whole report -/

/-- The parts of a report in order: the line pass, the open blocks and the four sweeps. -/
def parts (config : Config) (source : Text) : List (List Diagnostic) :=
  let lines := Line.contentOf source
  let statements := (Line.ofSource source).map Line.statement
  [(reports config lines {}).map worded, unclosedDiagnostics lines, Sweep.extraClosers statements,
    Sweep.endfors statements, Sweep.lengths (after lines {}).table statements,
    Sweep.emptyFors statements]

theorem emitted_eq_flatten_parts {config : Config} {source : Text}
    (content : Line.anyContent (Line.ofSource source) = true) :
    (outcome config source).emitted = (parts config source).flatten := by
  simp only [emitted_outcome content, parts, Sweep.all, unclosedDiagnostics, List.flatten_cons,
    List.flatten_nil, List.append_nil, List.append_assoc]

/-- Every part of a report keeps to the lines with content and to their order. The sweeps are given
all lines, but find the same on the lines with content alone. -/
theorem follows_of_mem_parts {config : Config} {source : Text} :
    ∀ part ∈ parts config source,
      Diagnostic.Follows ((Line.contentOf source).map Line.statement) part := by
  have free := @Line.newline_not_mem_text source
  have closers := Sweep.extraClosersAfter_filter [] ((Line.ofSource source).map Line.statement)
  rw [List.filter_nil] at closers
  intro part member
  simp only [parts, List.mem_cons, List.not_mem_nil, or_false] at member
  rw [Line.map_statement_contentOf]
  rcases member with rfl | rfl | rfl | rfl | rfl | rfl
  · rw [← Line.map_statement_contentOf]
    exact follows_reports ..
  · rw [← Line.map_statement_contentOf]
    exact follows_unclosedDiagnostics _
  · rw [Sweep.extraClosers, ← closers]
    exact Sweep.follows_extraClosersAfter ..
  · rw [← Sweep.endfors_filter]
    exact Sweep.follows_endfors _
  · rw [← Sweep.lengths_filter _ free]
    exact Sweep.follows_lengths ..
  · rw [← Sweep.emptyFors_filter]
    exact Sweep.follows_emptyFors _

theorem ascending_contentOf (source : Text) :
    Statement.Ascending ((Line.contentOf source).map Line.statement) :=
  List.pairwise_map.mpr (Line.pairwise_contentOf source)

/-- In a source with content nothing is said about missing content. -/
theorem topic_ne_content_of_mem_emitted {config : Config} {source : Text} {diagnostic : Diagnostic}
    (content : Line.anyContent (Line.ofSource source) = true)
    (member : diagnostic ∈ (outcome config source).emitted) :
    ∃ report, diagnostic = worded report ∧ report.2.topic ≠ .content := by
  rw [emitted_outcome content, List.mem_append, List.mem_append] at member
  rcases member with (reported | unclosed) | swept
  · obtain ⟨report, present, rfl⟩ := List.mem_map.mp reported
    obtain ⟨before, line, later, -, -, found⟩ := mem_reports_iff.mp present
    refine ⟨report, rfl, ?_⟩
    intro about
    have raised := mem_findings_iff.mp found
    rw [about] at raised
    cases raised
  · obtain ⟨frame, -, rfl⟩ := List.mem_map.mp unclosed
    exact ⟨unmatchedReport frame, rfl, Finding.Topic.noConfusion⟩
  · obtain ⟨report, same, about⟩ := Sweep.about_of_mem_all swept
    exact ⟨report, same, by rw [about.2]; decide⟩

/-- A check that answers has passed the lines and reported the open blocks. -/
theorem pass_of_run {config : Config} {source : Text} {check : Check}
    (ran : run config source = .ok check)
    (content : Line.anyContent (Line.ofSource source) = true) :
    pass config (Line.ofSource source) {} =
        .ok (check.state, (reports config (Line.contentOf source) {}).map worded) ∧
      unmatched check.state.blocks = .ok (unclosedDiagnostics (Line.contentOf source)) := by
  obtain ⟨rfl, readable⟩ := run_eq_ok ran
  have unit : config.indentUnit ≠ 0 := by
    intro zero
    obtain ⟨line, member, present⟩ := List.any_eq_true.mp content
    rw [run_of_zero_unit zero (Line.mem_contentOf.mpr ⟨member, present⟩)] at ran
    cases ran
  rw [state_outcome, pass_filter]
  constructor
  · apply pass_of_readable unit start_known
    · intro line member
      exact (Line.mem_contentOf.mp member).2
    · exact readable
  · exact unmatched_eq (after_known start_known)

/-- A source without content gets one diagnostic and no symbols. In any other source every
diagnostic stands on a line with content, and what is emitted consists of the findings of the line
pass, the open blocks and the four sweeps, each in the order of lines; no two open blocks share a
line. -/
theorem report_located_and_ordered {config : Config} {source : Text} {check : Check}
    (ran : run config source = .ok check) :
    (Line.anyContent (Line.ofSource source) = false →
      check.diagnostics =
        [⟨1, "No pseudocode content found. Please write some pseudocode.", .error, "E000"⟩] ∧
      check.symbols = []) ∧
    (Line.anyContent (Line.ofSource source) = true →
      (∀ diagnostic ∈ check.diagnostics, diagnostic.code ≠ "E000" ∧
        ∃ line ∈ Line.ofSource source, line.isContent = true ∧ diagnostic.line = line.number) ∧
      ∃ passed unclosed,
        pass config (Line.ofSource source) {} = .ok (check.state, passed) ∧
        unmatched check.state.blocks = .ok unclosed ∧
        let statements := (Line.ofSource source).map Line.statement
        let segments := [passed, unclosed, Sweep.extraClosers statements, Sweep.endfors statements,
          Sweep.lengths check.state.table statements, Sweep.emptyFors statements]
        check.emitted = segments.flatten ∧
        (∀ segment ∈ segments, segment.Pairwise fun earlier later => earlier.line ≤ later.line) ∧
        unclosed.Pairwise fun earlier later => earlier.line < later.line) := by
  have passed := pass_of_run ran
  obtain ⟨rfl, -⟩ := run_eq_ok ran
  have ascending := ascending_contentOf source
  constructor
  · intro empty
    simp only [diagnostics, symbols, outcome, empty, Bool.false_eq_true, ↓reduceIte, and_true]
    rfl
  · intro content
    have emitted : (outcome config source).emitted = (parts config source).flatten :=
      emitted_eq_flatten_parts content
    refine ⟨?_, _, _, (passed content).1, (passed content).2, ?_, ?_, ?_⟩
    · intro diagnostic member
      rw [mem_diagnostics_iff] at member
      constructor
      · intro code
        obtain ⟨report, rfl, other⟩ := topic_ne_content_of_mem_emitted content member
        exact other (Finding.code_eq_noContent_iff.mp code)
      · rw [emitted] at member
        obtain ⟨part, present, found⟩ := List.mem_flatten.mp member
        obtain ⟨statement, stands, line⟩ :=
          (follows_of_mem_parts part present).within diagnostic found
        obtain ⟨origin, held, rfl⟩ := List.mem_map.mp stands
        obtain ⟨inSource, isContent⟩ := Line.mem_contentOf.mp held
        exact ⟨origin, inSource, isContent, line⟩
    · rw [state_outcome]
      exact emitted
    · rw [state_outcome]
      intro segment member
      exact (follows_of_mem_parts segment member).inOrder ascending
    · exact pairwise_unclosedDiagnostics ascending

/-- Two loops that run into one wrong closing word report the same line twice, and the blocks that
stay open are reported in the order in which they were opened. -/
theorem nested_loops_reported_in_order :
    let source : Text := "IF a THEN\nFOR i ← 1 TO 2\nFOR j ← 1 TO 2\nENDFOR"
    ∃ check, run {} source = .ok check ∧ Line.anyContent (Line.ofSource source) = true ∧
      Sweep.endfors ((Line.ofSource source).map Line.statement) =
        [Finding.forEndedByEndfor.on 4, Finding.forEndedByEndfor.on 4] ∧
      ∃ unclosed, unmatched check.state.blocks = .ok unclosed ∧
        unclosed.map (·.line) = [1, 2, 3] ∧
        unclosed.Pairwise fun earlier later => earlier.line < later.line := by
  intro source
  have facts : (run {} source).isOk = true ∧ Line.anyContent (Line.ofSource source) = true ∧
      Sweep.endfors ((Line.ofSource source).map Line.statement) =
        [Finding.forEndedByEndfor.on 4, Finding.forEndedByEndfor.on 4] ∧
      (unmatched (outcome {} source).state.blocks).toOption.map (·.map (·.line)) =
        some [1, 2, 3] := by
    decide +kernel
  obtain ⟨returns, content, ends, lines⟩ := facts
  have ran := run_of_isOk {} source returns
  obtain ⟨-, passed, unclosed, -, remains, -, -, increasing⟩ :=
    (report_located_and_ordered ran).2 content
  rw [remains] at lines
  exact ⟨_, ran, content, ends, unclosed, remains, Option.some.inj lines, increasing⟩

end Check

end PseudoLint
