import PseudoLint.Proofs.Check.Verdict
import PseudoLint.Proofs.Text.Newline

/-! # Blanks around the statements

A line gives its statement to every rule and the number of its leading blanks to the rule on layout
alone. So two sources whose lines have the same statements register the same symbols and differ in
nothing but findings on layout, and they fail together unless such a finding has to name a unit that
is too long. If their lines with content also begin with the same blanks they are not told apart at
all, and in particular it does not matter by which characters lines are ended.
-/

namespace PseudoLint

namespace Line

/-- The blanks before the statement of a line. -/
def leading (line : Line) : Text :=
  line.raw.takeWhile isBlank

theorem indent_eq (line : Line) : line.indent = line.leading.length := by
  have parts : (line.leading ++ line.raw.trimStart).length = line.raw.length :=
    congrArg List.length List.takeWhile_append_dropWhile
  rw [List.length_append] at parts
  rw [indent]
  omega

/-- The statements of a source are read off its trimmed lines. -/
theorem map_statement_enumerate {left right : List Text}
    (same : left.map Text.trim = right.map Text.trim) (number : Int) :
    (enumerate number left).map statement = (enumerate number right).map statement := by
  induction left generalizing right number with
  | nil =>
    rw [List.map_nil, eq_comm, List.map_eq_nil_iff] at same
    rw [same]
  | cons raw rest ih =>
    obtain ⟨other, others, rfl, here, there⟩ := List.map_eq_cons_iff.mp same.symm
    simp only [enumerate, List.map_cons, statement, here, ih there.symm]

/-- A line end of blanks changes the leading blanks of no line with content. -/
theorem map_leading_endLines {ending : Text} (blanks : ∀ c ∈ ending, isBlank c = true)
    (raws : List Text) (number : Int) :
    ((enumerate number (Text.endLines ending raws)).filter isContent).map leading =
      ((enumerate number raws).filter isContent).map leading := by
  fun_induction Text.endLines ending raws generalizing number with
  | case1 => rfl
  | case2 last => rfl
  | case3 raw next rest ih =>
    have same : (Line.mk number (raw ++ ending)).statement = (Line.mk number raw).statement := by
      simp only [statement, Text.trim_append_blanks blanks]
    have alike : (Line.mk number (raw ++ ending)).isContent = (Line.mk number raw).isContent :=
      congrArg Statement.isContent same
    cases content : (Line.mk number raw).isContent with
    | false =>
      rw [content] at alike
      rw [enumerate, enumerate, List.filter_cons_of_neg (Bool.eq_false_iff.mp alike),
        List.filter_cons_of_neg (Bool.eq_false_iff.mp content)]
      exact ih (number + 1)
    | true =>
      rw [content] at alike
      have nonblank : raw.trim ≠ [] := by
        intro nothing
        simp [isContent, statement, nothing, Statement.isContent, Statement.isBlank] at content
      rw [enumerate, enumerate, List.filter_cons_of_pos alike, List.filter_cons_of_pos content,
        List.map_cons, List.map_cons, ih (number + 1), leading, leading,
        Text.takeWhile_isBlank_append nonblank]

end Line

namespace Check

/-! ## The line pass -/

theorem after_eq_foldl (lines : List Line) (state : State) :
    after lines state =
      (lines.map Line.statement).foldl (fun state statement => advance statement state) state := by
  rw [List.foldl_map]
  rfl

theorem inspect_congr {config : Config} {left right : Line} {state : State}
    (statements : left.statement = right.statement) (leading : left.leading = right.leading) :
    inspect config left state = inspect config right state := by
  have numbers : left.number = right.number := congrArg Statement.line statements
  have indents : left.indent = right.indent := by
    rw [Line.indent_eq, Line.indent_eq, leading]
  simp only [inspect, Rule.indentation, statements, numbers, indents]

theorem pass_congr {config : Config} {left right : List Line} {state : State}
    (statements : left.map Line.statement = right.map Line.statement)
    (leading : left.map Line.leading = right.map Line.leading) :
    pass config left state = pass config right state := by
  induction left generalizing right state with
  | nil =>
    rw [List.map_nil, eq_comm, List.map_eq_nil_iff] at statements
    rw [statements]
  | cons line rest ih =>
    obtain ⟨other, others, rfl, here, there⟩ := List.map_eq_cons_iff.mp statements.symm
    obtain ⟨first, later⟩ := List.cons.inj leading
    have content : line.isContent = other.isContent := congrArg Statement.isContent here.symm
    simp only [pass, content, inspect_congr here.symm first, ih there.symm later]

/-! ## Findings apart from layout -/

/-- Whether a diagnostic is about something else than layout. -/
def isLayoutFree (diagnostic : Diagnostic) : Bool :=
  diagnostic.code != ("W001" : Text)

theorem filter_layoutFindings (config : Config) (line : Line) :
    ((Rule.layoutFindings config line).map (·.on line.number)).filter isLayoutFree = [] := by
  rw [List.filter_eq_nil_iff]
  refine List.forall_mem_map.mpr (Rule.forall_mem_whenever ?_)
  exact Bool.eq_false_iff.mp rfl

theorem filter_findings_congr (config : Config) (state : State) {left right : Line}
    (statements : left.statement = right.statement) :
    ((findings config left state).map (·.on left.number)).filter isLayoutFree =
      ((findings config right state).map (·.on right.number)).filter isLayoutFree := by
  have numbers : left.number = right.number := congrArg Statement.line statements
  simp only [findings, List.map_append, List.filter_append, filter_layoutFindings]
  rw [statements, numbers]

theorem filter_reports_congr (config : Config) (state : State) {left right : List Line}
    (statements : left.map Line.statement = right.map Line.statement) :
    ((reports config left state).map worded).filter isLayoutFree =
      ((reports config right state).map worded).filter isLayoutFree := by
  induction left generalizing right state with
  | nil =>
    rw [List.map_nil, eq_comm, List.map_eq_nil_iff] at statements
    rw [statements]
  | cons line rest ih =>
    obtain ⟨other, others, rfl, here, there⟩ := List.map_eq_cons_iff.mp statements.symm
    have found := filter_findings_congr config state here.symm
    rw [reports, reports, List.map_append, List.map_append, List.filter_append, List.filter_append,
      List.map_map, List.map_map, here, ih _ there.symm]
    exact congrArg (· ++ _) found

/-! ## Outcomes -/

section SameStatements

variable (config : Config) {left right : Text}
  (statements : (Line.ofSource left).map Line.statement =
    (Line.ofSource right).map Line.statement)

include statements

private theorem contentOf_congr :
    (Line.contentOf left).map Line.statement = (Line.contentOf right).map Line.statement := by
  rw [Line.map_statement_contentOf, statements, ← Line.map_statement_contentOf]

private theorem anyContent_congr :
    Line.anyContent (Line.ofSource left) = Line.anyContent (Line.ofSource right) := by
  have read : ∀ lines : List Line,
      Line.anyContent lines = (lines.map Line.statement).any Statement.isContent := by
    intro lines
    rw [List.any_map]
    rfl
  rw [read, read, statements]

/-- Whether a check fails is decided by the statements, apart from units that are too long to be
written. -/
theorem run_error_congr (fits : ∀ line ∈ Line.contentOf left ++ Line.contentOf right,
      ¬ line.HasOverlongUnit config) :
    (∃ fault, run config left = .error fault) ↔ ∃ fault, run config right = .error fault := by
  have read : ∀ source, (∀ line ∈ Line.contentOf source, ¬ line.HasOverlongUnit config) →
      ((∃ fault, run config source = .error fault) ↔
        ∃ statement ∈ (Line.contentOf source).map Line.statement,
          config.indentUnit = 0 ∨ statement.Overlong) := by
    intro source fitting
    rw [run_error_iff]
    constructor
    · rintro ⟨line, member, stops⟩
      exact ⟨line.statement, List.mem_map_of_mem member,
        stops.imp_right fun long => long.resolve_left (fitting line member)⟩
    · rintro ⟨statement, member, stops⟩
      obtain ⟨line, present, rfl⟩ := List.mem_map.mp member
      exact ⟨line, present, stops.imp_right .inr⟩
  obtain ⟨leftFits, rightFits⟩ := List.forall_mem_append.mp fits
  rw [read left leftFits, read right rightFits, contentOf_congr statements]

theorem symbols_outcome_congr :
    (outcome config left).symbols = (outcome config right).symbols := by
  simp only [symbols, outcome, anyContent_congr statements, after_eq_foldl,
    contentOf_congr statements]
  split <;> rfl

theorem filter_emitted_congr :
    (outcome config left).emitted.filter isLayoutFree =
      (outcome config right).emitted.filter isLayoutFree := by
  have contents := contentOf_congr statements
  have states : after (Line.contentOf left) {} = after (Line.contentOf right) {} := by
    rw [after_eq_foldl, after_eq_foldl, contents]
  have reported := filter_reports_congr config {} contents
  have same := anyContent_congr statements
  cases content : Line.anyContent (Line.ofSource right) with
  | false =>
    rw [content] at same
    simp only [outcome, same, content, Bool.false_eq_true, ↓reduceIte]
  | true =>
    rw [content] at same
    rw [emitted_outcome same, emitted_outcome content, states, statements, List.filter_append,
      List.filter_append, List.filter_append, List.filter_append, reported]

/-- Apart from layout, the diagnostics are decided by the statements. -/
theorem filter_diagnostics_congr :
    (outcome config left).diagnostics.filter isLayoutFree =
      (outcome config right).diagnostics.filter isLayoutFree := by
  have determined : ∀ source, (outcome config source).diagnostics.filter isLayoutFree =
      Diagnostic.dedup ((outcome config source).emitted.filter isLayoutFree) := by
    intro source
    apply Diagnostic.dedup_filter
    intro first firstIn second secondIn keys
    rw [eq_of_key_eq firstIn secondIn keys]
  rw [determined, determined, filter_emitted_congr config statements]

/-- With the leading blanks of the lines with content, the statements decide everything. -/
theorem run_congr
    (leading : (Line.contentOf left).map Line.leading =
      (Line.contentOf right).map Line.leading) :
    run config left = run config right := by
  have lengths : (Line.ofSource left).length = (Line.ofSource right).length := by
    simpa only [List.length_map] using congrArg List.length statements
  have passed : ∀ state, pass config (Line.ofSource left) state =
      pass config (Line.ofSource right) state := by
    intro state
    rw [pass_filter, pass_filter config (Line.ofSource right)]
    exact pass_congr (contentOf_congr statements) leading
  simp only [run, anyContent_congr statements, passed, statements, lengths]

end SameStatements

/-- Two characters at the end of a line are as good as one. -/
theorem run_replace_newline (config : Config) (source : Text) :
    run config (source.replace "\n" "\r\n") = run config source := by
  have returns : ∀ c ∈ ['\r'], isBlank c = true := List.forall_mem_singleton.mpr rfl
  apply run_congr
  · apply Line.map_statement_enumerate
    rw [Text.lines_replace_newline, Text.map_trim_endLines returns]
  · rw [Line.contentOf, Line.ofSource, Text.lines_replace_newline]
    exact Line.map_leading_endLines returns source.lines 1

/-- The blanks around the statements of a source decide nothing but the findings on layout, and for
these only the blanks before a statement count. The sources fail together, unless the unit is too
long to be written and a finding has to name it. So a source with carriage returns before its line
feeds, as an uploaded file has them, is checked like the source that the same file is read as. -/
theorem layout_decides_only_layout (config : Config) :
    (∀ left right : Text, left.lines.map Text.trim = right.lines.map Text.trim →
      ((Numeral.isWritable config.indentUnit = false →
          ∀ line ∈ Line.contentOf left ++ Line.contentOf right,
            Int.fmod line.indent config.indentUnit = 0) →
        ((∃ fault, run config left = .error fault) ↔
          ∃ fault, run config right = .error fault)) ∧
      (∀ first second, run config left = .ok first → run config right = .ok second →
        first.symbols = second.symbols ∧
        first.diagnostics.filter isLayoutFree = second.diagnostics.filter isLayoutFree) ∧
      ((Line.contentOf left).map Line.leading = (Line.contentOf right).map Line.leading →
        run config left = run config right)) ∧
    ∀ source : Text, '\r' ∉ source →
      run config (source.replace "\n" "\r\n") = run config source ∧
      ∀ bytes, Utf8.decode bytes = .ok (source.replace "\n" "\r\n") →
        run config (decodeUpload bytes) = run config source ∧ decodeFile bytes = .ok source := by
  refine ⟨?_, ?_⟩
  · intro left right trimmed
    have statements : (Line.ofSource left).map Line.statement =
        (Line.ofSource right).map Line.statement :=
      Line.map_statement_enumerate trimmed 1
    refine ⟨fun flush => run_error_congr config statements fun line member long =>
      long.1 (flush long.2 line member), ?_, run_congr config statements⟩
    intro first second ranFirst ranSecond
    obtain ⟨rfl, -⟩ := run_eq_ok ranFirst
    obtain ⟨rfl, -⟩ := run_eq_ok ranSecond
    exact ⟨symbols_outcome_congr config statements, filter_diagnostics_congr config statements⟩
  · intro source free
    refine ⟨run_replace_newline config source, ?_⟩
    intro bytes decoded
    refine ⟨?_, ?_⟩
    · rw [decodeUpload, decoded]
      exact run_replace_newline config source
    · rw [decodeFile, decoded]
      exact congrArg Except.ok (unifyNewlines_replace_newline free)

/-- A blank in front of a line brings a finding on layout and changes no other, a blank behind it
changes nothing, and neither does a carriage return. -/
theorem shifted_line_differs_in_layout :
    ((∃ fault, run {} "OUTPUT y" = .error fault) ↔ ∃ fault, run {} " OUTPUT y" = .error fault) ∧
    (∃ first second, run {} "OUTPUT y" = .ok first ∧ run {} " OUTPUT y" = .ok second ∧
      first.diagnostics ≠ second.diagnostics ∧ first.symbols = second.symbols ∧
      first.diagnostics.filter isLayoutFree = second.diagnostics.filter isLayoutFree) ∧
    run {} " OUTPUT y\t" = run {} " OUTPUT y" ∧
    run {} (decodeUpload [0x41, 0x0D, 0x0A, 0x42]) = run {} "A\nB" ∧
    decodeFile [0x41, 0x0D, 0x0A, 0x42] = .ok "A\nB" := by
  obtain ⟨pair, ends⟩ := layout_decides_only_layout {}
  have trimmed :
      (Text.lines "OUTPUT y").map Text.trim = (Text.lines " OUTPUT y").map Text.trim := by
    decide +kernel
  refine ⟨(pair _ _ trimmed).1 fun long => absurd long (by decide), ?_,
    (pair " OUTPUT y\t" " OUTPUT y" (by decide +kernel)).2.2 (by decide +kernel),
    (ends "A\nB" (by decide +kernel)).2 _ (by rfl)⟩
  have ranFirst := run_of_isOk {} "OUTPUT y" (by decide +kernel)
  have ranSecond := run_of_isOk {} " OUTPUT y" (by decide +kernel)
  have differ : (outcome {} "OUTPUT y").diagnostics ≠ (outcome {} " OUTPUT y").diagnostics := by
    decide +kernel
  exact ⟨_, _, ranFirst, ranSecond, differ,
    (pair _ _ trimmed).2.1 _ _ ranFirst ranSecond⟩

end Check

end PseudoLint
