import PseudoLint.Proofs.Form
import PseudoLint.Sweep

/-! # Sweeps

The sweep for wrong closing words collects the positions of these words once and finds the first one
behind a loop by its place among them. That is the first statement behind the loop that begins with
the word (`firstBehind?_endforPositions`), so the sweep can be read from the front, one statement
after the other (`endfors_cons`). The rest are conditions on the statements of a source under which
this sweep and those for lengths and loops without a body find nothing. The sweep for extra closing
words is treated with the blocks.
-/

namespace PseudoLint.Sweep

/-! ## Positions -/

/-- The positions of the statements that begin with the wrong closing word behind `front`. -/
private def positionsBehind (front later : List Statement) : List Nat :=
  ((later.zipIdx front.length).filter (·.1.startsWith "ENDFOR")).map (·.2)

private theorem endforPositions_append (front later : List Statement) :
    endforPositions (front ++ later) = endforPositions front ++ positionsBehind front later := by
  simp only [endforPositions, positionsBehind, List.zipIdx_append, List.filter_append,
    List.map_append, Nat.zero_add]

private theorem lt_of_mem_endforPositions {statements : List Statement} {position : Nat}
    (member : position ∈ endforPositions statements) : position < statements.length := by
  obtain ⟨⟨statement, index⟩, present, rfl⟩ := List.mem_map.mp member
  have bound := (List.mem_zipIdx (List.mem_filter.mp present).1).2.1
  omega

private theorem le_of_mem_positionsBehind {front later : List Statement} {position : Nat}
    (member : position ∈ positionsBehind front later) : front.length ≤ position := by
  obtain ⟨⟨statement, index⟩, present, rfl⟩ := List.mem_map.mp member
  exact (List.mem_zipIdx (List.mem_filter.mp present).1).1

/-- The first position behind `front` is that of the first such statement. -/
private theorem head?_positionsBehind (front later : List Statement) :
    (positionsBehind front later).head?.bind ((front ++ later)[·]?) =
      later.find? (·.startsWith "ENDFOR") := by
  induction later generalizing front with
  | nil => rfl
  | cons statement rest ih =>
    have next := ih (front ++ [statement])
    rw [List.append_assoc, List.singleton_append] at next
    cases ends : statement.startsWith "ENDFOR" with
    | true =>
      simp only [positionsBehind, List.zipIdx_cons, List.filter_cons, ends, ↓reduceIte,
        List.map_cons, List.head?_cons, Option.bind_some, List.find?_cons,
        List.getElem?_append_right (Nat.le_refl _), Nat.sub_self, List.getElem?_cons_zero]
    | false =>
      simp only [positionsBehind, List.length_append, List.length_singleton] at next
      simp only [positionsBehind, List.zipIdx_cons, List.filter_cons, ends, Bool.false_eq_true,
        ↓reduceIte, List.find?_cons, next]

/-- The place of a statement among the positions leads to the first later statement that begins with
the wrong closing word. One that stands at the very place is not taken. -/
theorem firstBehind?_endforPositions (before : List Statement) (statement : Statement)
    (later : List Statement) :
    firstBehind? (before ++ statement :: later) (endforPositions (before ++ statement :: later))
        before.length = later.find? (·.startsWith "ENDFOR") := by
  have upTo : ∀ position ∈ endforPositions (before ++ [statement]),
      decide (position ≤ before.length) = true := by
    intro position member
    have bound := lt_of_mem_endforPositions member
    rw [List.length_append, List.length_singleton] at bound
    exact decide_eq_true (by omega)
  have beyond : (positionsBehind (before ++ [statement]) later).takeWhile
      (· ≤ before.length) = [] := by
    cases behind : positionsBehind (before ++ [statement]) later with
    | nil => rfl
    | cons position others =>
      have bound := le_of_mem_positionsBehind (behind ▸ List.mem_cons_self)
      rw [List.length_append, List.length_singleton] at bound
      exact List.takeWhile_cons_of_neg (by rw [decide_eq_true_eq]; omega)
  have place : insertionPoint before.length (endforPositions (before ++ statement :: later)) =
      (endforPositions (before ++ [statement])).length := by
    rw [insertionPoint, List.append_cons, endforPositions_append,
      List.takeWhile_append_of_pos upTo, beyond, List.append_nil]
  rw [firstBehind?, place, List.append_cons, endforPositions_append,
    List.getElem?_append_right (Nat.le_refl _), Nat.sub_self, ← List.head?_eq_getElem?]
  exact head?_positionsBehind _ _

/-- The sweep over the statements behind `front`. -/
private def endforsBehind (front later : List Statement) : List Diagnostic :=
  (later.zipIdx front.length).filterMap fun (statement, position) =>
    if statement.firstWord == "FOR" then
      (firstBehind? (front ++ later) (endforPositions (front ++ later)) position).map
        (Finding.forEndedByEndfor.on ·.line)
    else none

private theorem endforsBehind_cons (front : List Statement) (statement : Statement)
    (rest : List Statement) :
    endforsBehind front (statement :: rest) =
      (if statement.firstWord == "FOR" then
        (rest.find? (·.startsWith "ENDFOR")).toList.map (Finding.forEndedByEndfor.on ·.line)
      else []) ++ endforsBehind (front ++ [statement]) rest := by
  have here := firstBehind?_endforPositions front statement rest
  simp only [endforsBehind, List.zipIdx_cons, List.filterMap_cons, here, List.length_append,
    List.length_singleton, List.append_assoc, List.singleton_append]
  cases statement.firstWord == "FOR" with
  | true => cases rest.find? (·.startsWith "ENDFOR") <;> rfl
  | false => rfl

/-- What stands in front plays no part. -/
private theorem endforsBehind_eq (front later : List Statement) :
    endforsBehind front later = endfors later := by
  induction later generalizing front with
  | nil => rfl
  | cons statement rest ih =>
    have alone : endfors (statement :: rest) = endforsBehind [] (statement :: rest) := rfl
    rw [alone, endforsBehind_cons, endforsBehind_cons, ih, ih]

/-- The sweep reports the first wrong closing word behind a loop, then those of the later loops. -/
theorem endfors_cons (statement : Statement) (rest : List Statement) :
    endfors (statement :: rest) =
      (if statement.firstWord == "FOR" then
        (rest.find? (·.startsWith "ENDFOR")).toList.map (Finding.forEndedByEndfor.on ·.line)
      else []) ++ endfors rest := by
  have alone : endfors (statement :: rest) = endforsBehind [] (statement :: rest) := rfl
  rw [alone, endforsBehind_cons, endforsBehind_eq]

/-! ## Sweeps that find nothing -/

theorem endfors_eq_nil {statements : List Statement}
    (absent : ∀ statement ∈ statements, statement.startsWith "ENDFOR" = false) :
    endfors statements = [] := by
  induction statements with
  | nil => rfl
  | cons statement rest ih =>
    have later : ∀ other ∈ rest, other.startsWith "ENDFOR" = false :=
      fun other member => absent other (List.mem_cons_of_mem _ member)
    have misses : rest.find? (·.startsWith "ENDFOR") = none :=
      List.find?_eq_none.mpr fun other member => Bool.eq_false_iff.mp (later other member)
    simp only [endfors_cons, misses, ih later, Option.toList_none, List.map_nil, ite_self,
      List.append_nil]

theorem lengths_eq_nil {statements : List Statement} (table : SymbolTable)
    (absent : ∀ statement ∈ statements, '(' ∉ statement.code) : lengths table statements = [] := by
  rw [lengths, List.flatMap_eq_nil_iff]
  intro statement member
  rw [Form.lengthArgument_needs.all_eq_nil (absent statement member), List.flatMap_nil]

/-- No first word that opens a counted loop is followed at once by the one that closes it. -/
def Filled : List Text → Prop
  | first :: second :: rest =>
    (first = "FOR" → second ≠ "NEXT") ∧ Filled (second :: rest)
  | _ => True

theorem emptyFors_eq_nil {statements : List Statement}
    (content : ∀ statement ∈ statements, statement.isContent = true)
    (headers : ∀ statement ∈ statements, isForHeader statement = true → statement.firstWord = "FOR")
    (filled : Filled (statements.map Statement.firstWord)) : emptyFors statements = [] := by
  induction statements with
  | nil => rfl
  | cons statement rest ih =>
    cases rest with
    | nil => simp only [emptyFors, List.find?_nil, Option.any_none, Bool.and_false,
        Bool.false_eq_true, ↓reduceIte, List.append_nil]
    | cons next others =>
      obtain ⟨here, there⟩ := filled
      have later := ih (fun other member => content other (List.mem_cons_of_mem _ member))
        (fun other member => headers other (List.mem_cons_of_mem _ member)) there
      have follows : (next :: others).find? (·.isContent) = some next := by
        have present : next.isContent = true :=
          content next (List.mem_cons_of_mem _ List.mem_cons_self)
        rw [List.find?_cons, present]
      have full : (isForHeader statement && closesFor next) = false := by
        rw [Bool.and_eq_false_imp]
        intro header
        exact beq_false_of_ne (here (headers statement List.mem_cons_self header))
      rw [emptyFors, follows, Option.any_some, full, later]
      rfl

end PseudoLint.Sweep
