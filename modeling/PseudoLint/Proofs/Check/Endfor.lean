import PseudoLint.Proofs.Check.Order

/-! # Loops that run into the wrong closing word

The sweep for wrong closing words finds, for each counted loop, the first line behind it that begins
with one. Several loops may find the same line. So, without duplicates, a line is reported exactly
if it begins with the wrong word and no such line stands between it and some loop above. Nothing
else that is emitted has this message. -/

namespace PseudoLint

namespace Line

/-- Whether a line begins with the wrong closing word of a counted loop. -/
def isEndfor (line : Line) : Bool :=
  line.statement.startsWith "ENDFOR"

/-- Whether the first word of a line opens a counted loop. -/
def opensFor (line : Line) : Bool :=
  line.statement.firstWord == "FOR"

/-- The first of some lines that stands behind a loop and begins with the wrong closing word. -/
def endforBehind? (lines : List Line) (loop : Line) : Option Line :=
  lines.find? fun other => decide (loop.number < other.number) && other.isEndfor

/-- A line begins with the wrong closing word, a loop stands above it and no other such line stands
in between. -/
def EndsLoopWrongly (lines : List Line) (number : Int) : Prop :=
  ∃ ending ∈ lines, ending.number = number ∧ ending.isEndfor = true ∧
    ∃ loop ∈ lines, loop.opensFor = true ∧ loop.number < number ∧
      ∀ other ∈ lines, loop.number < other.number → other.number < number →
        other.isEndfor = false

/-- Among lines in order the first one with a property is the one with the least number. -/
theorem find?_eq_some_iff_least {lines : List Line} {holds : Line → Bool} {first : Line}
    (ordered : lines.Pairwise fun earlier later => earlier.number < later.number) :
    lines.find? holds = some first ↔ first ∈ lines ∧ holds first = true ∧
      ∀ other ∈ lines, other.number < first.number → holds other = false := by
  constructor
  · intro found
    obtain ⟨also, before, later, rfl, misses⟩ := List.find?_eq_some_iff_append.mp found
    refine ⟨List.mem_append_right _ List.mem_cons_self, also, fun other member less => ?_⟩
    rcases List.mem_append.mp member with early | rest
    · exact (Bool.not_eq_true' _).mp (misses other early)
    · rcases List.mem_cons.mp rest with rfl | behind
      · omega
      · have greater := (List.pairwise_cons.mp (List.pairwise_append.mp ordered).2.1).1 other behind
        omega
  · rintro ⟨member, also, least⟩
    obtain ⟨before, later, rfl⟩ := List.append_of_mem member
    refine List.find?_eq_some_iff_append.mpr ⟨also, before, later, rfl, fun other early => ?_⟩
    have less := (List.pairwise_append.mp ordered).2.2 other early first List.mem_cons_self
    rw [least other (List.mem_append_left _ early) less]
    rfl

theorem endforBehind?_eq_some_iff {lines : List Line} {loop ending : Line}
    (ordered : lines.Pairwise fun earlier later => earlier.number < later.number) :
    endforBehind? lines loop = some ending ↔
      ending ∈ lines ∧ ending.isEndfor = true ∧ loop.number < ending.number ∧
        ∀ other ∈ lines, loop.number < other.number → other.number < ending.number →
          other.isEndfor = false := by
  rw [endforBehind?, find?_eq_some_iff_least ordered]
  simp only [Bool.and_eq_true, decide_eq_true_eq, Bool.and_eq_false_imp]
  constructor
  · rintro ⟨member, ⟨behind, ends⟩, least⟩
    exact ⟨member, ends, behind, fun other present above below => least other present below above⟩
  · rintro ⟨member, ends, behind, least⟩
    exact ⟨member, ⟨behind, ends⟩, fun other present below above => least other present above below⟩

/-- Behind one of the lines, all later ones and no others are looked at. -/
theorem endforBehind?_cut {before later : List Line} {loop : Line}
    (ordered : (before ++ loop :: later).Pairwise fun first second =>
      first.number < second.number) :
    endforBehind? (before ++ loop :: later) loop = later.find? isEndfor := by
  obtain ⟨-, behind, above⟩ := List.pairwise_append.mp ordered
  have skipped : before.find? (fun other => decide (loop.number < other.number) && other.isEndfor) =
      none := by
    refine List.find?_eq_none.mpr fun other early found => ?_
    have less := above other early loop List.mem_cons_self
    have greater := of_decide_eq_true (Bool.and_eq_true_iff.mp found).1
    omega
  have same : later.find? (fun other => decide (loop.number < other.number) && other.isEndfor) =
      later.find? isEndfor := by
    rw [← List.head?_filter, ← List.head?_filter]
    refine congrArg List.head? (List.filter_congr fun other member => ?_)
    rw [decide_eq_true ((List.pairwise_cons.mp behind).1 other member), Bool.true_and]
  rw [endforBehind?, List.find?_append, skipped, Option.none_or, List.find?_cons, decide_eq_false
    (Int.lt_irrefl _), Bool.false_and, same]

end Line

namespace Sweep

open Line

/-- The sweep reports the first wrong closing word behind each loop, in the order of the loops. -/
theorem endfors_eq_filterMap {lines : List Line}
    (ordered : lines.Pairwise fun earlier later => earlier.number < later.number) :
    endfors (lines.map Line.statement) =
      (lines.filter opensFor).filterMap fun loop =>
        (endforBehind? lines loop).map (Finding.forEndedByEndfor.on ·.number) := by
  -- The lines in front of those that are left to sweep still count among all lines.
  have swept : ∀ before rest, lines = before ++ rest → endfors (rest.map Line.statement) =
      (rest.filter opensFor).filterMap fun loop =>
        (endforBehind? lines loop).map (Finding.forEndedByEndfor.on ·.number) := by
    intro before rest split
    induction rest generalizing before with
    | nil => rfl
    | cons line rest ih =>
      have later := ih (before ++ [line]) (by rw [split, List.append_cons])
      have here : endforBehind? lines line = rest.find? isEndfor := by
        rw [split]
        exact endforBehind?_cut (split ▸ ordered)
      have first : (rest.map Line.statement).find? (·.startsWith "ENDFOR") =
          (rest.find? isEndfor).map Line.statement :=
        List.find?_map ..
      have opens : (line.statement.firstWord == "FOR".toList) = line.opensFor := rfl
      rw [List.map_cons, endfors_cons, later, first, opens]
      cases loop : line.opensFor with
      | false => rw [List.filter_cons_of_neg (Bool.eq_false_iff.mp loop)]; rfl
      | true =>
        rw [List.filter_cons_of_pos loop, List.filterMap_cons, here]
        cases rest.find? isEndfor <;> rfl
  exact swept [] lines rfl

/-- The lines that the sweep reports. -/
theorem mem_endfors_iff {lines : List Line} {number : Int}
    (ordered : lines.Pairwise fun earlier later => earlier.number < later.number) :
    Finding.forEndedByEndfor.on number ∈ endfors (lines.map Line.statement) ↔
      EndsLoopWrongly lines number := by
  rw [endfors_eq_filterMap ordered, List.mem_filterMap]
  constructor
  · rintro ⟨loop, member, found⟩
    obtain ⟨present, opens⟩ := List.mem_filter.mp member
    obtain ⟨ending, first, same⟩ := Option.map_eq_some_iff.mp found
    obtain ⟨inLines, ends, behind, least⟩ := (endforBehind?_eq_some_iff ordered).mp first
    obtain rfl : ending.number = number := congrArg Diagnostic.line same
    exact ⟨ending, inLines, rfl, ends, loop, present, opens, behind, least⟩
  · rintro ⟨ending, inLines, rfl, ends, loop, present, opens, behind, least⟩
    have first := (endforBehind?_eq_some_iff ordered).mpr ⟨inLines, ends, behind, least⟩
    exact ⟨loop, List.mem_filter.mpr ⟨present, opens⟩,
      Option.map_eq_some_iff.mpr ⟨ending, first, rfl⟩⟩

end Sweep

namespace Finding

/-- No other finding has the message on a loop that the wrong word ends. -/
theorem message_eq_forEndedByEndfor_iff {finding : Finding} :
    finding.message = forEndedByEndfor.message ↔ finding = forEndedByEndfor := by
  constructor
  · intro same
    have opens : finding.opening = forEndedByEndfor.opening :=
      congrArg Prod.fst (opening_eq_of_message_eq same)
    unfold opening at opens
    cases finding with
    | forEndedByEndfor => rfl
    | _ => simp at opens
  · rintro rfl
    rfl

end Finding

namespace Check

/-- What is emitted with this message is what the sweep finds. -/
theorem filter_emitted_eq_endfors {config : Config} {source : Text}
    (content : Line.anyContent (Line.ofSource source) = true) :
    (outcome config source).emitted.filter (·.message == Finding.forEndedByEndfor.message) =
      Sweep.endfors ((Line.ofSource source).map Line.statement) := by
  have other : ∀ {line : Int} {finding : Finding}, finding ≠ .forEndedByEndfor →
      ¬ ((finding.on line).message == Finding.forEndedByEndfor.message) = true :=
    fun differs same => differs (Finding.message_eq_forEndedByEndfor_iff.mp (beq_iff_eq.mp same))
  rw [emitted_outcome content, Sweep.all]
  simp only [List.filter_append]
  rw [List.filter_eq_nil_iff.mpr, List.filter_eq_nil_iff.mpr, List.filter_eq_nil_iff.mpr,
    List.filter_eq_self.mpr, List.filter_eq_nil_iff.mpr, List.filter_eq_nil_iff.mpr]
  · simp only [List.nil_append, List.append_nil]
  · intro diagnostic empty
    obtain ⟨line, rfl⟩ := Sweep.exists_emptyForBody_of_mem empty
    exact other Finding.noConfusion
  · intro diagnostic length
    obtain ⟨line, type, rfl⟩ := Sweep.exists_lengthOfOther_of_mem length
    exact other Finding.noConfusion
  · intro diagnostic wrong
    obtain ⟨line, rfl⟩ := Sweep.exists_forEndedByEndfor_of_mem wrong
    exact beq_self_eq_true _
  · intro diagnostic closer
    obtain ⟨line, word, rfl⟩ := Sweep.exists_extraCloser_of_mem closer
    exact other Finding.noConfusion
  · intro diagnostic unclosed
    obtain ⟨frame, -, rfl⟩ := List.mem_map.mp unclosed
    exact other Finding.noConfusion
  · intro diagnostic reported
    obtain ⟨report, present, rfl⟩ := List.mem_map.mp reported
    obtain ⟨before, line, later, -, -, found⟩ := mem_reports_iff.mp present
    refine other fun same => ?_
    -- No rule on lines finds anything on the topic of the sweeps.
    have swept := mem_findings_iff.mp found
    rw [same] at swept
    cases swept

/-- A line is reported to end a loop with the wrong word exactly if it begins with that word and
some loop above it has no such line in between, and then it is reported once. Before duplicates are
removed there is one report for each loop with such a line behind it, on the first of these lines,
in the order of the loops. -/
theorem wrong_loop_end_reported_iff {config : Config} {source : Text} {check : Check}
    (content : Line.anyContent (Line.ofSource source) = true)
    (ran : run config source = .ok check) :
    let lines := Line.ofSource source
    let message : Text := "FOR loops must end with NEXT, not ENDFOR"
    (∀ number, (∃ diagnostic ∈ check.diagnostics, diagnostic.key = (number, message)) ↔
      Line.EndsLoopWrongly lines number) ∧
    (∀ number, Line.EndsLoopWrongly lines number →
      check.diagnostics.countP (·.key == (number, message)) = 1) ∧
    check.emitted.filter (·.message == message) = Sweep.endfors (lines.map Line.statement) ∧
    Sweep.endfors (lines.map Line.statement) =
      (lines.filter Line.opensFor).filterMap fun loop =>
        (Line.endforBehind? lines loop).map fun ending =>
          ⟨ending.number, message, .error, "E020"⟩ := by
  intro lines message
  obtain ⟨rfl, -⟩ := run_eq_ok ran
  have ordered : lines.Pairwise fun earlier later => earlier.number < later.number :=
    Line.pairwise_enumerate 1 source.lines
  have swept : (outcome config source).emitted.filter (·.message == message) =
      Sweep.endfors (lines.map Line.statement) := filter_emitted_eq_endfors content
  have reported : ∀ number, (∃ diagnostic ∈ (outcome config source).diagnostics,
      diagnostic.key = (number, message)) ↔ Line.EndsLoopWrongly lines number := by
    intro number
    rw [← Sweep.mem_endfors_iff ordered, ← swept]
    constructor
    · rintro ⟨diagnostic, member, key⟩
      have wrong : diagnostic ∈ (outcome config source).emitted.filter
          (·.message == Finding.forEndedByEndfor.message) :=
        List.mem_filter.mpr
          ⟨mem_diagnostics_iff.mp member, beq_iff_eq.mpr (congrArg Prod.snd key)⟩
      obtain ⟨line, same⟩ := Sweep.exists_forEndedByEndfor_of_mem (swept ▸ wrong)
      obtain rfl : line = number := congrArg Prod.fst (same ▸ key)
      rwa [same] at wrong
    · intro wrong
      exact ⟨_, mem_diagnostics_of_mem_emitted (List.mem_filter.mp wrong).1, rfl⟩
  refine ⟨reported, fun number ends => ?_, swept, Sweep.endfors_eq_filterMap ordered⟩
  obtain ⟨diagnostic, member, key⟩ := (reported number).mpr ends
  rw [← key]
  exact Diagnostic.countP_key_dedup member

/-- Two loops run into line 4 and a third one into line 7. Line 5 is hidden behind line 4, line 1
has no loop above it, and the last loop runs into nothing. -/
theorem wrong_loop_end_shared_by_loops :
    let source : Text := "ENDFOR\nFOR i ← 1 TO 2\nFOR j ← 1 TO 2\nENDFOR\nENDFOR\n" ++
      "FOR k ← 1 TO 2\nENDFORk\nFOR m ← 1 TO 2"
    let message : Text := "FOR loops must end with NEXT, not ENDFOR"
    Line.anyContent (Line.ofSource source) = true ∧ ∃ check, run {} source = .ok check ∧
      Line.EndsLoopWrongly (Line.ofSource source) 4 ∧
      ¬ Line.EndsLoopWrongly (Line.ofSource source) 5 ∧
      (Sweep.endfors ((Line.ofSource source).map Line.statement)).map (·.line) = [4, 4, 7] ∧
      check.diagnostics.countP (·.key == (4, message)) = 1 := by
  intro source message
  have facts : (run {} source).isOk = true ∧ Line.anyContent (Line.ofSource source) = true ∧
      (∃ diagnostic ∈ (outcome {} source).diagnostics, diagnostic.key = (4, message)) ∧
      (∀ diagnostic ∈ (outcome {} source).diagnostics, diagnostic.key ≠ (5, message)) ∧
      (Sweep.endfors ((Line.ofSource source).map Line.statement)).map (·.line) = [4, 4, 7] := by
    decide +kernel
  obtain ⟨returns, content, four, five, swept⟩ := facts
  have ran := run_of_isOk {} source returns
  obtain ⟨reported, once, -⟩ := wrong_loop_end_reported_iff content ran
  have ends := (reported 4).mp four
  refine ⟨content, _, ran, ends, fun hidden => ?_, swept, once 4 ends⟩
  obtain ⟨diagnostic, member, key⟩ := (reported 5).mpr hidden
  exact five diagnostic member key

end Check

end PseudoLint
