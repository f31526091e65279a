import PseudoLint.Proofs.Text.Respacing
import PseudoLint.Proofs.Text.UpperCase

/-! # Upper-casing word by word

The full upper-case mapping leaves blanks alone and makes none out of other characters, so the words
of an upper-case form are the upper-case forms of the words. A text without blanks that occurs in
another one lies within one of its words. So what occurs in the upper-case form of a text depends on
the words of the text only.
-/

namespace PseudoLint

/-! ## Blanks -/

/-- Closed ranges of all blank characters. -/
def allBlankRanges : List (Nat × Nat) :=
  (0x09, 0x0D) :: (0x1C, 0x20) :: blankRanges

theorem isBlank_eq_inRanges (c : Char) : isBlank c = inRanges allBlankRanges c.toNat := by
  have cut : inRanges allBlankRanges c.toNat =
      ((0x09 ≤ c.toNat && c.toNat ≤ 0x0D) || ((0x1C ≤ c.toNat && c.toNat ≤ 0x20) ||
        inRanges blankRanges c.toNat)) := rfl
  by_cases ascii : c.toNat < 0x80
  · have beyond : ∀ range ∈ blankRanges, 0x80 ≤ range.1 := by decide
    have absent : inRanges blankRanges c.toNat = false := by
      rw [Bool.eq_false_iff]
      intro present
      obtain ⟨range, member, low, -⟩ := inRanges_iff.mp present
      have bound := beyond range member
      omega
    rw [cut, isBlank, if_pos ascii, absent, Bool.or_false]
  · have high : (decide (c.toNat ≤ 0x0D)) = false ∧ decide (c.toNat ≤ 0x20) = false := by
      simp only [decide_eq_false_iff_not]
      omega
    rw [cut, isBlank, if_neg ascii, high.1, high.2, Bool.and_false, Bool.and_false, Bool.false_or,
      Bool.false_or]

/-- A code point that is none of a blank does not become one as a character. -/
theorem isBlank_ofNat {code : Nat} (apart : inRanges allBlankRanges code = false) :
    isBlank (Char.ofNat code) = false := by
  by_cases valid : code.isValidChar
  · rwa [isBlank_eq_inRanges, toNat_ofNat_of_isValidChar valid]
  · rw [Char.ofNat, dif_neg valid]
    decide

/-- No run starts from a blank or leads to one. -/
theorem not_blank_of_covers {run : CaseRun} (listed : run ∈ upperRuns) {code : Nat}
    (covered : run.covers code = true) :
    inRanges allBlankRanges code = false ∧ inRanges allBlankRanges (run.image code) = false := by
  have sources : overlap (upperRuns.map fun run => (run.first, run.last)) allBlankRanges =
      false := by
    decide +kernel
  have images : overlap (upperRuns.map fun run => (run.target, run.image run.last))
      allBlankRanges = false := by
    decide +kernel
  simp only [CaseRun.covers, Bool.and_eq_true, decide_eq_true_eq] at covered
  constructor
  · exact not_inRanges_of_apart sources
      (inRanges_iff.mpr ⟨_, List.mem_map_of_mem listed, covered.1⟩)
  · refine not_inRanges_of_apart images
      (inRanges_iff.mpr ⟨_, List.mem_map_of_mem listed, ?_⟩)
    simp only [CaseRun.image]
    omega

/-- No expansion starts from a blank or holds one. -/
theorem not_blank_of_lookup {code : Nat} {codes : List Nat}
    (found : upperExpansions.lookup code = some codes) :
    inRanges allBlankRanges code = false ∧
      ∀ image ∈ codes, inRanges allBlankRanges image = false := by
  have entries : ∀ entry ∈ upperExpansions, inRanges allBlankRanges entry.1 = false ∧
      ∀ image ∈ entry.2, inRanges allBlankRanges image = false := by
    decide +kernel
  obtain ⟨before, behind, split, -⟩ := List.lookup_eq_some_iff.mp found
  exact entries (code, codes) (split ▸ List.mem_append_right _ List.mem_cons_self)

theorem upperChar_of_isBlank {c : Char} (blank : isBlank c = true) : upperChar c = [c] := by
  by_cases ascii : c.toNat < 0x80
  · have plain : ∀ code < 0x80, isBlank (Char.ofNat code) = true →
        upperChar (Char.ofNat code) = [Char.ofNat code] := by decide
    exact @of_ascii (fun c => isBlank c = true → upperChar c = [c]) plain c ascii blank
  · rw [isBlank_eq_inRanges] at blank
    have noExpansion : upperExpansions.lookup c.toNat = none := by
      cases expansion : upperExpansions.lookup c.toNat with
      | none => rfl
      | some codes =>
        rw [(not_blank_of_lookup expansion).1] at blank
        cases blank
    have noRun : upperRuns.find? (·.covers c.toNat) = none := by
      rw [List.find?_eq_none]
      intro run listed covered
      rw [(not_blank_of_covers listed covered).1] at blank
      cases blank
    rw [upperChar_of_no_expansion ascii noExpansion, mapCase, noRun, Char.ofNat_toNat]

/-- Upper-casing makes no blank out of another character. -/
theorem not_isBlank_of_mem_upperChar {c d : Char} (solid : isBlank c = false)
    (member : d ∈ upperChar c) : isBlank d = false := by
  cases upperImage_of_mem member with
  | ascii plain =>
    have capital : ∀ code < 0x80, isBlank (Char.ofNat code) = false →
        isBlank (Char.ofNat code).toUpper = false := by decide
    exact @of_ascii (fun c => isBlank c = false → isBlank c.toUpper = false) capital c plain solid
  | expanded _ found image => exact isBlank_ofNat ((not_blank_of_lookup found).2 _ image)
  | moved _ listed covered => exact isBlank_ofNat (not_blank_of_covers listed covered).2
  | unmapped _ _ => exact solid

/-! ## Words -/

namespace Text

/-- The words of an upper-case form are the upper-case forms of the words. -/
theorem words_upper (text : Text) : text.upper.words = text.words.map upper := by
  have apart : text.upper.splitOnP isBlank = (text.splitOnP isBlank).map upper :=
    splitOnP_flatMap (fun _ => upperChar_of_isBlank)
      (fun _ solid _ => not_isBlank_of_mem_upperChar solid) text
  have filled : ∀ stretch : Text, (!stretch.upper.isEmpty) = !stretch.isEmpty := by
    intro stretch
    cases stretch with
    | nil => rfl
    | cons c rest =>
      have nonempty : upper (c :: rest) ≠ [] := upper_ne_nil (List.cons_ne_nil c rest)
      rw [List.isEmpty_eq_false_iff.mpr nonempty, List.isEmpty_cons]
  rw [words, words, runs, runs, apart, List.filter_map]
  congr 1
  exact List.filter_congr fun stretch _ => filled stretch

/-! ## Occurrences -/

/-- A word occurs in a text exactly if it occurs in one of its words. -/
theorem hasInfix_eq_any_words {needle : Text} (solid : needle.IsSolid) (text : Text) :
    text.hasInfix needle = text.words.any (·.hasInfix needle) := by
  rw [Bool.eq_iff_iff, hasInfix_iff, infix_iff_exists_piece solid.2, List.any_eq_true]
  constructor
  · rintro ⟨stretch, member, within⟩
    have nonempty : stretch ≠ [] := by
      rintro rfl
      exact solid.1 (List.infix_nil.mp within)
    refine ⟨stretch, List.mem_filter.mpr ⟨member, ?_⟩, hasInfix_iff.mpr within⟩
    rw [List.isEmpty_eq_false_iff.mpr nonempty]
    rfl
  · rintro ⟨word, member, within⟩
    exact ⟨word, (List.mem_filter.mp member).1, hasInfix_iff.mp within⟩

/-- What occurs in the upper-case form of a text occurs in that of one of its words. -/
theorem hasInfix_upper_iff {needle : Text} (solid : needle.IsSolid) (text : Text) :
    text.upper.hasInfix needle = true ↔
      ∃ word ∈ text.words, word.upper.hasInfix needle = true := by
  rw [hasInfix_eq_any_words solid, words_upper, List.any_map, List.any_eq_true]
  rfl

end Text

end PseudoLint
