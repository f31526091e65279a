import PseudoLint.Proofs.Block.Acceptance
import PseudoLint.Proofs.Check.Inert

/-! # The sweep for extra closing words

The sweep counts lines: those that consist of a closing word against those that begin with its
opening word and a space. On well-nested words no prefix closes a kind of block more often than it
opens it, so the sweep finds nothing as long as every opening word is followed by a space. The block
check is clean exactly on well-nested words, so there the sweep and the block check agree.
-/

namespace PseudoLint.Sweep

open Nesting

/-- Every line that opens a block of some family begins as the sweep expects. -/
def Spaced (lines : List Line) : Prop :=
  ∀ line ∈ lines, ∀ family ∈ families,
    line.statement.firstWord ++ [' '] = family.2 → line.statement.startsWith family.2 = true

private theorem families_belong : ∀ family ∈ families,
    family.2 = family.2.dropLast ++ [' '] ∧ Keyword.closer? family.2.dropLast = some family.1 := by
  decide

private theorem families_close : ∀ family ∈ families, ∀ line : Int,
    Statement.isContent ⟨line, family.1⟩ = true ∧
      Statement.firstWord ⟨line, family.1⟩ = family.1 := by
  intro family member line
  have closed : ∀ family ∈ families,
      Statement.isContent ⟨0, family.1⟩ = true ∧ Statement.firstWord ⟨0, family.1⟩ = family.1 := by
    decide
  exact closed family member

theorem opening_eq {family : Text × Text} (member : family ∈ families) :
    ∃ opener, family.2 = opener ++ [' '] ∧ Keyword.closer? opener = some family.1 := by
  obtain ⟨shape, belongs⟩ := families_belong family member
  exact ⟨family.2.dropLast, shape, belongs⟩

/-- A line that consists of a closing word counts among the block words. -/
theorem countClosing_le {family : Text × Text} (member : family ∈ families) (lines : List Line) :
    countClosing family.1 (lines.map Line.statement) ≤
      (blockWords (lines.filter Line.isContent)).count family.1 := by
  obtain ⟨opener, -, belongs⟩ := opening_eq member
  have closes : isBlockWord family.1 = true := by
    simp only [isBlockWord, isCloser_of_closer? belongs, Bool.or_true]
  induction lines with
  | nil => exact Nat.zero_le _
  | cons line rest ih =>
    simp only [countClosing, List.map_cons, List.countP_cons] at ih ⊢
    by_cases same : line.statement.text = family.1
    · obtain ⟨content, first⟩ := families_close family member line.number
      have closing : line.statement = ⟨line.number, family.1⟩ := by rw [← same]; rfl
      have counted : line.isContent = true := by rw [Line.isContent, closing]; exact content
      rw [← closing] at first
      rw [List.filter_cons, if_pos counted, blockWords_cons, first, if_pos closes,
        List.count_cons_self]
      simp only [same, beq_self_eq_true, ↓reduceIte]
      omega
    · have fewer : (blockWords (rest.filter Line.isContent)).count family.1 ≤
          (blockWords ((line :: rest).filter Line.isContent)).count family.1 := by
        rw [List.filter_cons]
        split
        · rw [blockWords_cons]
          split
          · exact List.count_le_count_cons
          · exact Nat.le_refl _
        · exact Nat.le_refl _
      simp only [same, beq_iff_eq, ↓reduceIte]
      omega

/-- A block word that opens a block of a family counts among the lines that begin with it. -/
theorem count_le_countOpening {family : Text × Text} (member : family ∈ families)
    {opener : Text} (opening : family.2 = opener ++ [' ']) {lines : List Line}
    (spaced : Spaced lines) :
    (blockWords (lines.filter Line.isContent)).count opener ≤
      countOpening family.2 (lines.map Line.statement) := by
  induction lines with
  | nil => exact Nat.zero_le _
  | cons line rest ih =>
    have counted := ih fun other present => spaced other (List.mem_cons_of_mem _ present)
    simp only [countOpening, List.map_cons, List.countP_cons] at counted ⊢
    rw [List.filter_cons]
    split
    · rw [blockWords_cons]
      split
      · by_cases same : line.statement.firstWord = opener
        · have begins := spaced line List.mem_cons_self family member (by rw [same, opening])
          rw [same, List.count_cons_self, if_pos begins]
          omega
        · rw [List.count_cons_of_ne same]
          omega
      · omega
    · omega

/-- No beginning of well-nested lines closes blocks of a family more often than it opens them. -/
theorem countClosing_le_countOpening {family : Text × Text} (member : family ∈ families)
    {first second : List Line} (spaced : Spaced first)
    (nested : WellNested (blockWords ((first ++ second).filter Line.isContent))) :
    countClosing family.1 (first.map Line.statement) ≤
      countOpening family.2 (first.map Line.statement) := by
  obtain ⟨opener, shape, belongs⟩ := opening_eq member
  rw [List.filter_append, blockWords_append] at nested
  calc countClosing family.1 (first.map Line.statement)
      ≤ (blockWords (first.filter Line.isContent)).count family.1 := countClosing_le member first
    _ ≤ (blockWords (first.filter Line.isContent)).count opener := count_closer_le belongs nested
    _ ≤ countOpening family.2 (first.map Line.statement) :=
      count_le_countOpening member shape spaced

private theorem extraClosersAfter_eq_nil {earlier statements : List Statement}
    (silent : ∀ before statement later, statements = before ++ statement :: later →
      extraCloserAfter (before.reverse ++ earlier) statement = []) :
    extraClosersAfter earlier statements = [] := by
  induction statements generalizing earlier with
  | nil => rfl
  | cons statement rest ih =>
    have here := silent [] statement rest rfl
    have there : extraClosersAfter (statement :: earlier) rest = [] := by
      apply ih
      rintro before other later rfl
      have found := silent (statement :: before) other later rfl
      rwa [List.reverse_cons, List.append_assoc] at found
    rw [List.reverse_nil, List.nil_append] at here
    rw [extraClosersAfter, here, there, List.append_nil]

/-- On well-nested lines the sweep finds no extra closing word. -/
theorem extraClosers_eq_nil {lines : List Line} (spaced : Spaced lines)
    (nested : WellNested (blockWords (lines.filter Line.isContent))) :
    extraClosers (lines.map Line.statement) = [] := by
  apply extraClosersAfter_eq_nil
  intro before statement later split
  obtain ⟨first, others, rfl, rfl, tail⟩ := List.map_eq_append_iff.mp split
  obtain ⟨line, second, rfl, rfl, rfl⟩ := List.map_eq_cons_iff.mp tail
  unfold extraCloserAfter
  split
  · rename_i opening found
    have member : (line.statement.text, opening) ∈ families := by
      obtain ⟨front, back, here, -⟩ := List.lookup_eq_some_iff.mp found
      rw [here]
      exact List.mem_append_right _ List.mem_cons_self
    have whole : first ++ line :: second = (first ++ [line]) ++ second := by
      rw [List.append_assoc, List.singleton_append]
    rw [whole] at spaced nested
    have enough := countClosing_le_countOpening member
      (fun other present => spaced other (List.mem_append_left _ present)) nested
    -- The sweep keeps the lines so far in reverse, which changes no count.
    have sofar : line.statement :: ((first.map Line.statement).reverse ++ []) =
        ((first ++ [line]).map Line.statement).reverse := by simp
    rw [sofar]
    apply if_neg
    simp only [countOpening, countClosing, List.countP_reverse] at enough ⊢
    omega
  · rfl

/-! ## The sweep and the block check -/

/-- The words that open the blocks of the families. -/
def familyOpeners : List Text :=
  ["IF", "WHILE", "PROCEDURE", "FUNCTION", "CASE", "TYPE"]

private theorem mem_familyOpeners : ∀ family ∈ families, family.2.dropLast ∈ familyOpeners := by
  decide

/-- Lines begin as the sweep expects if a space follows every word that opens a block of a
family. -/
theorem spaced_of_familyOpeners {lines : List Line}
    (followed : ∀ line ∈ lines, line.statement.firstWord ∈ familyOpeners →
      line.statement.startsWith (line.statement.firstWord ++ [' ']) = true) : Spaced lines := by
  intro line present family member opens
  have word : line.statement.firstWord = family.2.dropLast := by
    rw [← opens, List.dropLast_concat]
  rw [← opens]
  exact followed line present (word ▸ mem_familyOpeners family member)

/-- Blank lines and comments are nothing to the sweep. -/
theorem extraClosers_ofSource (source : Text) :
    extraClosers ((Line.ofSource source).map Line.statement) =
      extraClosers ((Line.contentOf source).map Line.statement) := by
  rw [Line.map_statement_contentOf]
  exact (extraClosersAfter_filter [] _).symm

/-- Where the block check is clean and a space follows every word that opens a block of a family,
the sweep finds no extra closing word. -/
theorem clean_blocks_leave_no_extra_closer {config : Config} {source : Text} {check : Check}
    (content : Line.anyContent (Line.ofSource source) = true)
    (ran : Check.run config source = .ok check)
    (clean : ∀ diagnostic ∈ check.diagnostics, ¬ diagnostic.ReportsNesting)
    (followed : ∀ line ∈ Line.contentOf source, line.statement.firstWord ∈ familyOpeners →
      line.statement.startsWith (line.statement.firstWord ++ [' ']) = true) :
    extraClosers ((Line.ofSource source).map Line.statement) = [] := by
  obtain ⟨rfl, -⟩ := Check.run_eq_ok ran
  simp only [Check.mem_diagnostics_iff] at clean
  obtain ⟨silent, closed⟩ := (Check.not_reportsNesting_outcome_iff content).mp clean
  have reading : read [] (blockWords (Line.contentOf source)) = some [] :=
    (Check.read_blockWords_eq_some_iff config Check.start_known).mpr
      ⟨silent, List.map_eq_nil_iff.mpr closed⟩
  have content : (Line.contentOf source).filter Line.isContent = Line.contentOf source :=
    List.filter_eq_self.mpr fun line member => (Line.mem_contentOf.mp member).2
  rw [extraClosers_ofSource]
  apply extraClosers_eq_nil (spaced_of_familyOpeners followed)
  rw [content]
  exact wellNested_iff_read.mpr reading

/-- Two families, one inside the other, with a closing word in a comment. -/
theorem nested_families_leave_no_extra_closer :
    let source : Text := "DECLARE n : INTEGER\nIF n < 9 THEN\n   WHILE n < 9\n" ++
      "      n ← n + 1\n      // ENDWHILE\n   ENDWHILE\nENDIF"
    Line.anyContent (Line.ofSource source) = true ∧
      (∃ check, Check.run {} source = .ok check ∧
        ∀ diagnostic ∈ check.diagnostics, ¬ diagnostic.ReportsNesting) ∧
      (∀ line ∈ Line.contentOf source, line.statement.firstWord ∈ familyOpeners →
        line.statement.startsWith (line.statement.firstWord ++ [' ']) = true) ∧
      extraClosers ((Line.ofSource source).map Line.statement) = [] := by
  intro source
  have facts : Line.anyContent (Line.ofSource source) = true ∧
      (Check.run {} source).isOk = true ∧ (Check.outcome {} source).diagnostics = [] ∧
      ∀ line ∈ Line.contentOf source, line.statement.firstWord ∈ familyOpeners →
        line.statement.startsWith (line.statement.firstWord ++ [' ']) = true := by
    decide +kernel
  obtain ⟨content, returns, nothing, followed⟩ := facts
  have ran := Check.run_of_isOk {} source returns
  have clean : ∀ diagnostic ∈ (Check.outcome {} source).diagnostics,
      ¬ diagnostic.ReportsNesting := by
    rw [nothing]
    exact List.forall_mem_nil _
  exact ⟨content, ⟨_, ran, clean⟩, followed,
    clean_blocks_leave_no_extra_closer content ran clean followed⟩

/-- With another blank behind the opening word the closing word counts as extra. -/
example : extraClosers ((Line.ofSource "IF\tx THEN\nENDIF").map Line.statement) =
    [(Finding.extraCloser "ENDIF").on 2] := by
  decide

end PseudoLint.Sweep
