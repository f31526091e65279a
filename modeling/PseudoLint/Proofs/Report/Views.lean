import PseudoLint.Proofs.Diagnostic
import PseudoLint.Proofs.Finding.Renumbering
import PseudoLint.Proofs.Text.Newline
import PseudoLint.Report.Printed
import PseudoLint.Report.Table

/-! # Views of diagnostics

The table, the summary and the printed report show the same diagnostics. The table and the report
order them by different keys, and both keep the order of emission where the key does not decide
(`StablySorted`). A report ends in a verdict, which is read off the text as its closing line.
Diagnostics are counted alike everywhere if each is an error or a warning: the table takes
whatever is no error for a warning, while the summary and the report count warnings by name.
-/

namespace PseudoLint

/-- `sorted` is `list` in the order of a key, and elements with one key keep their order. -/
structure StablySorted {α κ : Type} [BEq κ] (key : α → κ) (before : κ → κ → Prop)
    (sorted list : List α) : Prop where
  perm : sorted.Perm list
  ordered : sorted.Pairwise fun first second => before (key first) (key second)
  stable : ∀ value, sorted.filter (key · == value) = list.filter (key · == value)

section

variable {α κ : Type} [BEq κ] [LawfulBEq κ] {key : α → κ} {before : κ → κ → Prop}
  {precedes : α → α → Bool} (decides : ∀ a b, precedes a b = true ↔ before (key a) (key b))
  (total : ∀ a b, before a b ∨ before b a)
  (transitive : ∀ a b c, before a b → before b c → before a c)

include decides total transitive

theorem stablySorted_stableSort (list : List α) :
    StablySorted key before (stableSort precedes list) list := by
  have totalOn : ∀ a b, (precedes a b || precedes b a) = true := fun a b => by
    simpa only [Bool.or_eq_true, decides] using total (key a) (key b)
  have transitiveOn : ∀ a b c, precedes a b = true → precedes b c = true → precedes a c = true :=
    fun a b c => by simpa only [decides] using transitive (key a) (key b) (key c)
  have permuted := List.mergeSort_perm list precedes
  refine ⟨permuted, ?_, ?_⟩
  · exact (List.pairwise_mergeSort transitiveOn totalOn list).imp
      fun leads => (decides _ _).mp leads
  · intro value
    -- Elements with one key stand in order already, so the sort keeps them as they are.
    have tied : (list.filter (key · == value)).Pairwise (precedes · · = true) := by
      refine List.pairwise_of_forall_mem_list fun a inA b inB => (decides a b).mpr ?_
      rw [eq_of_beq (List.mem_filter.mp inA).2, eq_of_beq (List.mem_filter.mp inB).2]
      exact (total value value).elim id id
    have kept := (List.sublist_mergeSort transitiveOn totalOn tied List.filter_sublist).filter
      (key · == value)
    rw [List.filter_filter] at kept
    simp only [Bool.and_self] at kept
    exact (kept.eq_of_length (permuted.filter _).length_eq.symm).symm

end

/-! ## Rows -/

namespace DiagnosticRow

/-- What places a diagnostic in a table: its line, and whether it is no error. -/
def place (diagnostic : Diagnostic) : Int × Bool :=
  (diagnostic.line, !diagnostic.isError)

/-- The order of a table: by line and, on one line, errors first. -/
def Before (first second : Int × Bool) : Prop :=
  first.1 < second.1 ∨ first.1 = second.1 ∧ first.2 ≤ second.2

theorem precedes_iff (first second : Diagnostic) :
    precedes first second = true ↔ Before (place first) (place second) := by
  simp only [precedes, Before, place, Bool.or_eq_true, Bool.and_eq_true, decide_eq_true_eq,
    beq_iff_eq]
  cases first.isError <;> cases second.isError <;> simp [LE.le]

theorem Before.total (first second : Int × Bool) : Before first second ∨ Before second first := by
  rcases Int.lt_trichotomy first.1 second.1 with less | same | more
  · exact .inl (.inl less)
  · rcases Bool.le_total first.2 second.2 with leads | follows
    · exact .inl (.inr ⟨same, leads⟩)
    · exact .inr (.inr ⟨same.symm, follows⟩)
  · exact .inr (.inl more)

theorem Before.trans {first second third : Int × Bool} (leads : Before first second)
    (next : Before second third) : Before first third := by
  rcases leads with less | ⟨same, errors⟩ <;> rcases next with lessNext | ⟨sameNext, errorsNext⟩
  · exact .inl (Int.lt_trans less lessNext)
  · exact .inl (sameNext ▸ less)
  · exact .inl (same ▸ lessNext)
  · exact .inr ⟨same.trans sameNext, Bool.le_trans errors errorsNext⟩

theorem enumerate_eq_mapIdx (index : Nat) (diagnostics : List Diagnostic) :
    enumerate index diagnostics = diagnostics.mapIdx fun position diagnostic =>
      ⟨index + position, diagnostic.line, diagnostic.isError, diagnostic.code,
        diagnostic.message⟩ := by
  induction diagnostics generalizing index with
  | nil => rfl
  | cons diagnostic rest ih =>
    rw [enumerate, ih, List.mapIdx_cons]
    simp only [Nat.add_zero, Nat.add_assoc, Nat.add_comm 1]

theorem length_ofDiagnostics (diagnostics : List Diagnostic) :
    (ofDiagnostics diagnostics).length = diagnostics.length := by
  rw [ofDiagnostics, enumerate_eq_mapIdx, List.length_mapIdx, List.length_mergeSort]

theorem map_isError_enumerate (index : Nat) (diagnostics : List Diagnostic) :
    (enumerate index diagnostics).map isError = diagnostics.map Diagnostic.isError := by
  induction diagnostics generalizing index with
  | nil => rfl
  | cons diagnostic rest ih => rw [enumerate, List.map_cons, List.map_cons, ih]

/-- Rows that are selected by being an error or not are as many as the diagnostics so selected. -/
theorem length_filter_isError (diagnostics : List Diagnostic) (keep : Bool → Bool) :
    ((ofDiagnostics diagnostics).filter (keep ·.isError)).length =
      (diagnostics.filter (keep ·.isError)).length := by
  rw [← List.countP_eq_length_filter, ← List.countP_eq_length_filter]
  calc (ofDiagnostics diagnostics).countP (keep ·.isError)
      = ((ofDiagnostics diagnostics).map isError).countP keep := List.countP_map.symm
    _ = ((stableSort precedes diagnostics).map Diagnostic.isError).countP keep := by
        rw [ofDiagnostics, map_isError_enumerate]
    _ = (diagnostics.map Diagnostic.isError).countP keep :=
        ((List.mergeSort_perm diagnostics precedes).map _).countP_eq keep
    _ = diagnostics.countP (keep ·.isError) := List.countP_map

theorem typeLabel_beq_error (row : DiagnosticRow) :
    (row.typeLabel == "Error".toList) = row.isError := by
  cases verdict : row.isError <;> simp only [typeLabel, verdict] <;> decide

theorem typeLabel_beq_warning (row : DiagnosticRow) :
    (row.typeLabel == "Advertencia".toList) = !row.isError := by
  cases verdict : row.isError <;> simp only [typeLabel, verdict] <;> decide

/-- The table is the list of diagnostics in its own order, numbered from one. -/
theorem exists_ofDiagnostics (diagnostics : List Diagnostic) :
    ∃ ordered, StablySorted place Before ordered diagnostics ∧
      ofDiagnostics diagnostics = ordered.mapIdx fun position diagnostic =>
        ⟨position + 1, diagnostic.line, diagnostic.isError, diagnostic.code,
          diagnostic.message⟩ := by
  refine ⟨stableSort precedes diagnostics, ?_, ?_⟩
  · exact stablySorted_stableSort precedes_iff Before.total (fun _ _ _ => Before.trans) diagnostics
  · simp only [ofDiagnostics, enumerate_eq_mapIdx, Nat.add_comm 1]

end DiagnosticRow

/-! ## Counts -/

namespace Diagnostic

/-- Whether every diagnostic is an error or a warning. -/
def Graded (diagnostics : List Diagnostic) : Prop :=
  ∀ diagnostic ∈ diagnostics, diagnostic.severity = .error ∨ diagnostic.severity = .warning

/-- Where nothing else is reported, a warning is what is no error. -/
theorem Graded.warnings_eq {diagnostics : List Diagnostic} (graded : Graded diagnostics) :
    warnings diagnostics = diagnostics.filter (!·.isError) := by
  refine List.filter_congr fun diagnostic member => ?_
  rcases graded diagnostic member with severity | severity <;>
    simp only [isWarning, isError, severity] <;> rfl

theorem allValid_iff_errors_eq_nil {diagnostics : List Diagnostic} :
    allValid diagnostics = true ↔ errors diagnostics = [] := by
  simp [allValid, errors, List.filter_eq_nil_iff]

end Diagnostic

namespace DiagnosticRow

/-- The rows of type error. -/
def errorRows (rows : List DiagnosticRow) : List DiagnosticRow :=
  rows.filter (·.typeLabel == "Error".toList)

/-- The rows of type warning. -/
def warningRows (rows : List DiagnosticRow) : List DiagnosticRow :=
  rows.filter (·.typeLabel == "Advertencia".toList)

theorem length_errorRows (diagnostics : List Diagnostic) :
    (errorRows (ofDiagnostics diagnostics)).length = (Diagnostic.errors diagnostics).length := by
  simp only [errorRows, typeLabel_beq_error]
  exact length_filter_isError diagnostics id

theorem length_warningRows {diagnostics : List Diagnostic}
    (graded : Diagnostic.Graded diagnostics) :
    (warningRows (ofDiagnostics diagnostics)).length =
      (Diagnostic.warnings diagnostics).length := by
  simp only [warningRows, typeLabel_beq_warning, graded.warnings_eq]
  exact length_filter_isError diagnostics (!·)

end DiagnosticRow

/-! ## The report -/

namespace Report

theorem printed_append (first second : List Text) :
    printed (first ++ second) = printed first ++ printed second :=
  List.flatMap_append

/-- The last line of a text that ends with a line feed. -/
def closingLine (text : Text) : Text :=
  text.lines.dropLast.getLastD []

/-- Printed text ends in the line that was printed last. -/
theorem closingLine_printed (lines : List Text) {last : Text} (single : '\n' ∉ last) :
    closingLine (printed (lines ++ [last])) = last := by
  have ended : (printed (lines ++ [last])).lines = (printed lines ++ last).lines ++ [[]] := by
    rw [printed_append, show printed [last] = last ++ '\n' :: [] by simp [printed],
      ← List.append_assoc]
    exact List.splitOn_append_cons_self _ _
  rw [closingLine, ended, List.dropLast_concat]
  -- What stands before the last line is nothing or ends with a line feed itself.
  rcases List.eq_nil_or_concat lines with rfl | ⟨others, line, rfl⟩
  · rw [show printed [] ++ last = last from rfl, Text.lines, List.splitOn_eq_singleton single]
    rfl
  · rw [List.concat_eq_append, printed_append,
      show printed [line] = line ++ '\n' :: [] by simp [printed], ← List.append_assoc,
      List.append_assoc, List.cons_append, List.nil_append, Text.lines,
      List.splitOn_append_cons_self, List.splitOn_eq_singleton single, List.getLastD_concat]

/-- The line in which the report on a number of diagnostics ends, by the counts of errors and
warnings among them. -/
def verdict (shown errors warnings : Nat) : Text :=
  if shown = 0 then "No se encontraron errores ✅"
  else if errors = 0 then "✔ Programa válido (" ++ Numeral.ofNat warnings ++ " advertencias)"
  else "✘ " ++ Numeral.ofNat errors ++ " errores, " ++ Numeral.ofNat warnings ++ " advertencias"

/-- Whether a closing line accepts the source. -/
def accepts (line : Text) : Bool :=
  line == "No se encontraron errores ✅".toList || line.startsWith "✔"

theorem newline_not_mem_verdict (shown errors warnings : Nat) :
    '\n' ∉ verdict shown errors warnings := by
  have digits : ∀ n, '\n' ∉ Numeral.ofNat n := by
    intro n member
    have digit := Numeral.isDigit_of_mem_ofNat member
    revert digit
    decide
  unfold verdict
  split
  · decide
  · split <;> simp [digits]

theorem accepts_verdict_iff {shown errors warnings : Nat} (errorsShown : errors ≠ 0 → shown ≠ 0) :
    accepts (verdict shown errors warnings) = true ↔ errors = 0 := by
  unfold verdict
  split
  · rename_i empty
    exact ⟨fun _ => Decidable.byContradiction fun present => errorsShown present empty,
      fun _ => by decide⟩
  · split
    · rename_i noError
      exact ⟨fun _ => noError, fun _ => by simp [accepts, Text.startsWith]⟩
    · rename_i present
      refine ⟨fun accepted => ?_, fun noError => (present noError).elim⟩
      simp [accepts, Text.startsWith] at accepted

theorem verdictLine_eq {diagnostics : List Diagnostic} (nonempty : diagnostics ≠ []) :
    verdictLine diagnostics = verdict diagnostics.length (Diagnostic.errors diagnostics).length
      (Diagnostic.warnings diagnostics).length := by
  have shown : diagnostics.length ≠ 0 := fun zero => nonempty (List.eq_nil_of_length_eq_zero zero)
  simp only [verdictLine, verdict, shown, ↓reduceIte, Diagnostic.allValid_iff_errors_eq_nil,
    List.length_eq_zero_iff]

/-- A report lists the diagnostics by line and closes with the verdict. -/
theorem exists_text (diagnostics : List Diagnostic) (symbols? : Option (List Text)) :
    ∃ listed, StablySorted Diagnostic.line (· ≤ ·) listed diagnostics ∧
      text diagnostics symbols? =
        printed (symbols?.elim [] symbolSection ++ "=== Diagnósticos ===".toList ::
          listed.map diagnosticLine ++ (if diagnostics = [] then [] else [[]]) ++
          [verdict diagnostics.length (Diagnostic.errors diagnostics).length
            (Diagnostic.warnings diagnostics).length]) := by
  refine ⟨byLine diagnostics, ?_, ?_⟩
  · refine stablySorted_stableSort ?_ Int.le_total (fun _ _ _ => Int.le_trans) diagnostics
    exact fun first second => decide_eq_true_iff
  · cases diagnostics with
    | nil => simp [text, diagnosticSection, byLine, verdict]
    | cons first rest =>
      rw [text, diagnosticSection, verdictLine_eq (List.cons_ne_nil first rest)]
      simp

/-- The line of a diagnostic says whether it is an error. -/
theorem diagnosticLine_of_graded {diagnostics : List Diagnostic}
    (graded : Diagnostic.Graded diagnostics) {diagnostic : Diagnostic}
    (member : diagnostic ∈ diagnostics) :
    diagnosticLine diagnostic = "línea ".toList ++ Numeral.ofInt diagnostic.line ++
      (if diagnostic.isError then " [error] ".toList else " [warning] ".toList) ++
        diagnostic.code ++ ": ".toList ++ diagnostic.message := by
  have label : (if diagnostic.isError then " [error] ".toList else " [warning] ".toList) =
      " [".toList ++ diagnostic.severity.label ++ "] ".toList := by
    unfold Diagnostic.isError
    rcases graded diagnostic member with severity | severity <;> rw [severity] <;> decide
  unfold diagnosticLine
  rw [label, ← List.append_assoc, ← List.append_assoc]

theorem closingLine_text (diagnostics : List Diagnostic) (symbols? : Option (List Text)) :
    closingLine (text diagnostics symbols?) =
      verdict diagnostics.length (Diagnostic.errors diagnostics).length
        (Diagnostic.warnings diagnostics).length := by
  obtain ⟨listed, -, printout⟩ := exists_text diagnostics symbols?
  rw [printout]
  exact closingLine_printed _ (newline_not_mem_verdict _ _ _)

/-- A report closes by accepting the source exactly if it lists no error. -/
theorem accepts_closingLine_text_iff (diagnostics : List Diagnostic)
    (symbols? : Option (List Text)) :
    accepts (closingLine (text diagnostics symbols?)) = true ↔
      Diagnostic.errors diagnostics = [] := by
  rw [closingLine_text, accepts_verdict_iff, List.length_eq_zero_iff]
  intro present nothing
  have few : (Diagnostic.errors diagnostics).length ≤ diagnostics.length :=
    List.length_filter_le _ _
  omega

end Report

end PseudoLint
