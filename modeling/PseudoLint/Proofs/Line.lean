import PseudoLint.Line
import PseudoLint.Proofs.Text.Pieces

/-! # Lines of a source

Lines are numbered in order. A source made of lines without line feeds has exactly these lines, and
a source that is continued after a line feed has the lines of both parts.
-/

namespace PseudoLint.Line

theorem raw_mem_of_mem_enumerate {number : Int} {raws : List Text} {line : Line}
    (member : line ∈ enumerate number raws) : line.raw ∈ raws := by
  induction raws generalizing number with
  | nil => cases member
  | cons raw rest ih =>
    rcases List.mem_cons.mp member with rfl | later
    · exact List.mem_cons_self
    · exact List.mem_cons_of_mem _ (ih later)

/-- What does not depend on the number of a line is read off the raw lines. -/
theorem map_enumerate {α : Type} {view : Line → α} {read : Text → α}
    (same : ∀ number raw, view ⟨number, raw⟩ = read raw) (number : Int) (raws : List Text) :
    (enumerate number raws).map view = raws.map read := by
  induction raws generalizing number with
  | nil => rfl
  | cons raw rest ih => simp only [enumerate, List.map_cons, same, ih]

theorem length_enumerate (number : Int) (raws : List Text) :
    (enumerate number raws).length = raws.length := by
  induction raws generalizing number with
  | nil => rfl
  | cons raw rest ih => rw [enumerate, List.length_cons, List.length_cons, ih]

/-- Changing the raw lines one by one leaves their numbers. -/
theorem enumerate_map (change : Text → Text) (number : Int) (raws : List Text) :
    enumerate number (raws.map change) =
      (enumerate number raws).map fun line => { line with raw := change line.raw } := by
  induction raws generalizing number with
  | nil => rfl
  | cons raw rest ih => simp only [enumerate, List.map_cons, ih]

theorem enumerate_append (number : Int) (first second : List Text) :
    enumerate number (first ++ second) =
      enumerate number first ++ enumerate (number + first.length) second := by
  induction first generalizing number with
  | nil => simp [enumerate]
  | cons raw rest ih =>
    have moved : number + 1 + (rest.length : Int) = number + ((raw :: rest).length : Int) := by
      rw [List.length_cons]
      omega
    rw [List.cons_append, enumerate, ih, moved, enumerate, List.cons_append]

theorem number_le_of_mem_enumerate {number : Int} {raws : List Text} {line : Line}
    (member : line ∈ enumerate number raws) : number ≤ line.number := by
  induction raws generalizing number with
  | nil => cases member
  | cons raw rest ih =>
    rcases List.mem_cons.mp member with rfl | later
    · exact Int.le_refl _
    · have bound := ih later
      omega

theorem number_lt_of_mem_enumerate {number : Int} {raws : List Text} {line : Line}
    (member : line ∈ enumerate number raws) : line.number < number + raws.length := by
  induction raws generalizing number with
  | nil => cases member
  | cons raw rest ih =>
    rw [List.length_cons]
    rcases List.mem_cons.mp member with rfl | later
    · change number < _
      omega
    · have bound := ih later
      omega

/-- Later lines have greater numbers. -/
theorem pairwise_enumerate (number : Int) (raws : List Text) :
    (enumerate number raws).Pairwise fun earlier later => earlier.number < later.number := by
  induction raws generalizing number with
  | nil => exact .nil
  | cons raw rest ih =>
    refine .cons ?_ (ih (number + 1))
    intro later member
    have bound := number_le_of_mem_enumerate member
    change number < later.number
    omega

theorem indent_eq_zero {line : Line}
    (begins : ∃ c rest, line.raw = c :: rest ∧ isBlank c = false) : line.indent = 0 := by
  obtain ⟨c, rest, split, solid⟩ := begins
  rw [indent, Text.trimStart_of_solid split solid, Nat.sub_self]

theorem ofSource_continued (source addition : Text) :
    ofSource (source ++ '\n' :: addition) =
      ofSource source ++ enumerate (1 + source.lines.length) addition.lines := by
  rw [ofSource, Text.lines, List.splitOn_append_cons_self, enumerate_append]
  rfl

theorem ofSource_join {raws : List Text} (nonempty : raws ≠ []) (free : ∀ raw ∈ raws, '\n' ∉ raw) :
    ofSource (Text.join ['\n'] raws) = enumerate 1 raws := by
  rw [ofSource, Text.lines, Text.join, List.splitOn_intercalate '\n' free nonempty]

end PseudoLint.Line
