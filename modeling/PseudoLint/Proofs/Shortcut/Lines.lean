import PseudoLint.Proofs.Check.Order
import PseudoLint.Proofs.Shortcut
import PseudoLint.Proofs.Text.Newline

/-! # Replacing shortcuts line by line

A shortcut without line feeds lies within one line wherever it occurs, so a replacement over a whole
text does to each line what it does to that line alone (`Text.replace_append_newline`). This does
not depend on what the replacements before it have brought about, so it carries over to all
replacements of a table one after another, also where the symbol of one shortcut holds another. If
no symbol holds a line feed either, a text keeps its lines, and what a check says about a line of
the expanded text is said about the line of the text with that number.
-/

namespace PseudoLint

namespace Text

/-! ## One replacement -/

section

variable {old new : Text}

/-- What begins in front of a line feed ends in front of it too. -/
theorem replaceFrom_append_newline (nonempty : old ≠ []) (free : '\n' ∉ old) {skip : Nat}
    {left : Text} (within : skip ≤ left.length) (right : Text) :
    replaceFrom old new skip (left ++ '\n' :: right) =
      replaceFrom old new skip left ++ '\n' :: replaceFrom old new 0 right := by
  induction left generalizing skip with
  | nil =>
    obtain rfl : skip = 0 := Nat.le_zero.mp within
    have begins : old.isPrefixOf ('\n' :: right) = old.isPrefixOf [] :=
      startsWith_append_cons free [] right
    have misfit : ¬ old.isPrefixOf ('\n' :: right) = true := by
      rw [begins, List.isPrefixOf_iff_prefix, List.prefix_nil]
      exact nonempty
    rw [List.nil_append, replaceFrom.eq_def]
    dsimp only
    rw [if_neg misfit]
    rfl
  | cons c rest ih =>
    cases skip with
    | succ skip => exact ih (Nat.le_of_succ_le_succ within)
    | zero =>
      have begins : old.isPrefixOf (c :: (rest ++ '\n' :: right)) = old.isPrefixOf (c :: rest) :=
        startsWith_append_cons free (c :: rest) right
      rw [List.cons_append, replaceFrom, replaceFrom, begins]
      split
      · rename_i fits
        have short := (List.isPrefixOf_iff_prefix.mp fits).length_le
        rw [List.length_cons] at short
        rw [ih (by omega), List.append_assoc]
      · rw [ih (Nat.zero_le _), List.cons_append]

theorem replace_append_newline (nonempty : old ≠ []) (free : '\n' ∉ old) (left right : Text) :
    replace (left ++ '\n' :: right) old new =
      replace left old new ++ '\n' :: replace right old new := by
  simp only [replace_eq_replaceFrom nonempty]
  exact replaceFrom_append_newline nonempty free (Nat.zero_le _) right

theorem not_mem_replaceFrom {c : Char} (apart : c ∉ new) {skip : Nat} {text : Text}
    (free : c ∉ text) : c ∉ replaceFrom old new skip text := by
  induction text generalizing skip with
  | nil => cases skip <;> exact List.not_mem_nil
  | cons d rest ih =>
    obtain ⟨other, later⟩ := not_or.mp (mt List.mem_cons.mpr free)
    cases skip with
    | succ skip => exact ih later
    | zero =>
      rw [replaceFrom]
      split
      · rw [List.mem_append]
        exact not_or.mpr ⟨apart, ih later⟩
      · rw [List.mem_cons]
        exact not_or.mpr ⟨other, ih later⟩

end

end Text

namespace Shortcut

/-! ## All replacements of a table -/

/-- A table whose shortcuts are some text each and lie within lines, as do their symbols. -/
def WithinLines (table : List (Text × Text)) : Prop :=
  ∀ shortcut ∈ table, shortcut.1 ≠ [] ∧ '\n' ∉ shortcut.1 ∧ '\n' ∉ shortcut.2

namespace WithinLines

variable {table : Registry Text} (within : WithinLines table)

include within

theorem inOrder : WithinLines (Shortcut.inOrder table) :=
  fun shortcut member => within shortcut ((inOrder_perm table).mem_iff.mp member)

omit within in
private theorem foldl_append_newline {shortcuts : List (Text × Text)}
    (within : WithinLines shortcuts) (left right : Text) :
    let replaceAll (text : Text) : Text :=
      shortcuts.foldl (fun text shortcut => text.replace shortcut.1 shortcut.2) text
    replaceAll (left ++ '\n' :: right) = replaceAll left ++ '\n' :: replaceAll right := by
  intro replaceAll
  induction shortcuts generalizing left right with
  | nil => rfl
  | cons shortcut rest ih =>
    obtain ⟨⟨nonempty, free, -⟩, others⟩ := List.forall_mem_cons.mp within
    have first : (left ++ '\n' :: right).replace shortcut.1 shortcut.2 =
        left.replace shortcut.1 shortcut.2 ++ '\n' :: right.replace shortcut.1 shortcut.2 :=
      Text.replace_append_newline nonempty free left right
    have later := ih others (left.replace shortcut.1 shortcut.2)
      (right.replace shortcut.1 shortcut.2)
    simp only [replaceAll, List.foldl_cons, first]
    exact later

/-- The parts of a text in front of a line feed and behind it are expanded on their own. -/
theorem expand_append_newline (left right : Text) :
    expand table (left ++ '\n' :: right) = expand table left ++ '\n' :: expand table right :=
  foldl_append_newline within.inOrder left right

omit within in
private theorem newline_not_mem_foldl {shortcuts : List (Text × Text)}
    (within : WithinLines shortcuts) {text : Text} (free : '\n' ∉ text) :
    '\n' ∉ shortcuts.foldl (fun text shortcut => text.replace shortcut.1 shortcut.2) text := by
  induction shortcuts generalizing text with
  | nil => exact free
  | cons shortcut rest ih =>
    obtain ⟨⟨nonempty, -, apart⟩, others⟩ := List.forall_mem_cons.mp within
    have first : '\n' ∉ text.replace shortcut.1 shortcut.2 := by
      rw [Text.replace_eq_replaceFrom nonempty]
      exact Text.not_mem_replaceFrom apart free
    exact ih others first

/-- A line stays one line. -/
theorem newline_not_mem_expand {text : Text} (free : '\n' ∉ text) : '\n' ∉ expand table text :=
  newline_not_mem_foldl within.inOrder free

theorem expand_join {raws : List Text} (nonempty : raws ≠ []) :
    expand table (Text.join ['\n'] raws) = Text.join ['\n'] (raws.map (expand table)) := by
  unfold Text.join
  induction raws with
  | nil => exact absurd rfl nonempty
  | cons first rest ih =>
    cases rest with
    | nil => rw [List.map_singleton, List.intercalate_singleton, List.intercalate_singleton]
    | cons second others =>
      rw [List.intercalate_cons_cons, List.append_assoc, List.singleton_append,
        within.expand_append_newline, ih (List.cons_ne_nil _ _)]
      simp only [List.map_cons, List.intercalate_cons_cons, List.append_assoc,
        List.singleton_append]

/-- A text is expanded by expanding its lines. -/
theorem expand_eq_join (text : Text) :
    expand table text = Text.join ['\n'] (text.lines.map (expand table)) := by
  have split : Text.join ['\n'] text.lines = text := List.intercalate_splitOn '\n'
  calc expand table text
      = expand table (Text.join ['\n'] text.lines) := by rw [split]
    _ = Text.join ['\n'] (text.lines.map (expand table)) :=
        within.expand_join (List.splitOnP_ne_nil _ text)

/-- The lines of an expanded text are the expanded lines of the text. -/
theorem lines_expand (text : Text) :
    (expand table text).lines = text.lines.map (expand table) := by
  rw [within.expand_eq_join, Text.lines]
  apply List.splitOn_intercalate
  · intro raw member
    obtain ⟨line, stretch, rfl⟩ := List.mem_map.mp member
    exact within.newline_not_mem_expand (Text.not_mem_of_mem_splitOn stretch)
  · exact mt List.map_eq_nil_iff.mp (List.splitOn_ne_nil _ text)

end WithinLines

end Shortcut

/-! ## Checks of expanded texts -/

namespace Line

/-- A line with its shortcuts replaced. -/
def expanded (table : Registry Text) (line : Line) : Line :=
  { line with raw := Shortcut.expand table line.raw }

theorem ofSource_expand {table : Registry Text} (within : Shortcut.WithinLines table)
    (text : Text) :
    ofSource (Shortcut.expand table text) = (ofSource text).map (expanded table) := by
  rw [ofSource, within.lines_expand, enumerate_map]
  rfl

end Line

namespace Check

/-- A diagnostic stands on a line of the source, and on one with content if there is any. -/
theorem exists_line_of_mem_diagnostics {config : Config} {source : Text} {check : Check}
    (ran : run config source = .ok check) {diagnostic : Diagnostic}
    (member : diagnostic ∈ check.diagnostics) :
    ∃ line ∈ Line.ofSource source, diagnostic.line = line.number ∧
      line.isContent = Line.anyContent (Line.ofSource source) := by
  obtain ⟨rfl, -⟩ := run_eq_ok ran
  have emitted := Diagnostic.mem_of_mem_dedup member
  cases content : Line.anyContent (Line.ofSource source) with
  | false =>
    obtain ⟨first, others, lines⟩ := Text.exists_lines source
    have present : ⟨1, first⟩ ∈ Line.ofSource source := by
      rw [Line.ofSource, lines]
      exact List.mem_cons_self
    have misses := List.any_eq_false.mp content ⟨1, first⟩ present
    simp only [outcome, content, Bool.false_eq_true, ↓reduceIte, List.mem_singleton] at emitted
    exact ⟨_, present, congrArg Diagnostic.line emitted, Bool.eq_false_iff.mpr misses⟩
  | true =>
    rw [emitted_eq_flatten_parts content] at emitted
    obtain ⟨part, listed, found⟩ := List.mem_flatten.mp emitted
    obtain ⟨statement, stands, line⟩ := (follows_of_mem_parts part listed).within diagnostic found
    obtain ⟨origin, held, rfl⟩ := List.mem_map.mp stands
    obtain ⟨present, isContent⟩ := Line.mem_contentOf.mp held
    exact ⟨origin, present, line, isContent⟩

theorem lineCount_of_run {config : Config} {source : Text} {check : Check}
    (ran : run config source = .ok check) : check.lineCount = source.lines.length := by
  obtain ⟨rfl, -⟩ := run_eq_ok ran
  rw [← Line.length_enumerate 1 source.lines]
  unfold outcome
  dsimp only
  split <;> rfl

end Check

namespace Shortcut

/-- Where no shortcut and no symbol holds a line feed, expanding a text is expanding its lines. So
the text keeps its lines with their numbers, and every diagnostic of a check of the expanded text
stands on the number of a line of the text whose expansion is the line that was checked. -/
theorem expanded_line_by_line {table : Registry Text} (within : WithinLines table) (text : Text) :
    expand table text = Text.join ['\n'] (text.lines.map (expand table)) ∧
    (expand table text).lines.length = text.lines.length ∧
    Line.ofSource (expand table text) = (Line.ofSource text).map (Line.expanded table) ∧
    ∀ config check, Check.run config (expand table text) = .ok check →
      check.lineCount = text.lines.length ∧
      ∀ diagnostic ∈ check.diagnostics, ∃ line ∈ Line.ofSource text,
        diagnostic.line = line.number ∧
        (line.expanded table).isContent = Line.anyContent (Line.ofSource (expand table text)) := by
  have kept : (expand table text).lines.length = text.lines.length := by
    rw [within.lines_expand, List.length_map]
  refine ⟨within.expand_eq_join text, kept, Line.ofSource_expand within text, ?_⟩
  intro config check ran
  refine ⟨(Check.lineCount_of_run ran).trans kept, ?_⟩
  intro diagnostic member
  obtain ⟨checked, present, number, content⟩ := Check.exists_line_of_mem_diagnostics ran member
  rw [Line.ofSource_expand within] at present
  obtain ⟨line, original, rfl⟩ := List.mem_map.mp present
  exact ⟨line, original, number, content⟩

/-- The symbol of one shortcut of the table is another shortcut of it. The two lines become one
spelling, and the diagnostics stand on the two lines of the text. -/
theorem cascade_line_by_line :
    let table : Registry Text := [("=>", "<-"), ("<-", "←")]
    WithinLines table ∧
    expand table "i => 1\nj <- 2" =
      Text.join ['\n'] ((Text.lines "i => 1\nj <- 2").map (expand table)) ∧
    expand table "i => 1\nj <- 2" = "i ← 1\nj ← 2" ∧
    ∃ check, Check.run {} (expand table "i => 1\nj <- 2") = .ok check ∧
      check.diagnostics =
        [(Finding.undeclared "i").on 1, (Finding.undeclared "j").on 2] ∧
      check.lineCount = (Text.lines "i => 1\nj <- 2").length ∧
      ∀ diagnostic ∈ check.diagnostics, ∃ line ∈ Line.ofSource "i => 1\nj <- 2",
        diagnostic.line = line.number := by
  intro table
  have within : WithinLines table := by
    unfold WithinLines
    decide
  have expanded : expand table "i => 1\nj <- 2" = "i ← 1\nj ← 2" := by
    rw [expand_of_longest_first (by decide)]
    decide
  have facts : (Check.run {} (expand table "i => 1\nj <- 2")).isOk = true ∧
      (Check.outcome {} (expand table "i => 1\nj <- 2")).diagnostics =
        [(Finding.undeclared "i").on 1, (Finding.undeclared "j").on 2] := by
    rw [expanded]
    decide +kernel
  obtain ⟨returns, reported⟩ := facts
  obtain ⟨joined, -, -, checks⟩ := expanded_line_by_line within "i => 1\nj <- 2"
  have ran := Check.run_of_isOk _ _ returns
  obtain ⟨count, lines⟩ := checks _ _ ran
  refine ⟨within, joined, expanded, _, ran, reported, count, ?_⟩
  intro diagnostic member
  obtain ⟨line, present, number, -⟩ := lines diagnostic member
  exact ⟨line, present, number⟩

end Shortcut

end PseudoLint
