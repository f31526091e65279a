import PseudoLint.Proofs.Text.UpperCase

/-! # Upper-casing twice

The full upper-case mapping leaves alone every character that it leads to, so an upper-case form is
its own upper-case form. Beyond ASCII this is a fact about the tables. What a run leads to lies
apart from what another run, or an expansion, starts from; where capital and small letters alternate
the two stretches overlap, but at every second code point each.
-/

namespace PseudoLint

namespace CaseRun

/-- The run that leaves a single code point in its place. -/
def single (code : Nat) : CaseRun :=
  ⟨code, code, 1, code⟩

theorem covers_single (code : Nat) : (single code).covers code = true := by
  simp [covers, single]

theorem image_single (code : Nat) : (single code).image code = code := by
  simp [image, single]

/-- Whether the images of a run lie apart from what another one covers, or alternate with it. -/
def clears (run other : CaseRun) : Bool :=
  (run.image run.last).blt other.first || other.last.blt run.target ||
    ((run.step.beq 2 || run.first.beq run.last) && other.step.beq 2 &&
      ((run.target + other.first) % 2).beq 1)

theorem covers_image_eq_false {run other : CaseRun} (clear : run.clears other = true) {code : Nat}
    (covered : run.covers code = true) : other.covers (run.image code) = false := by
  rw [Bool.eq_false_iff]
  intro also
  simp only [covers, Bool.and_eq_true, decide_eq_true_eq, beq_iff_eq] at covered also
  obtain ⟨⟨low, high⟩, place⟩ := covered
  obtain ⟨⟨above, below⟩, otherPlace⟩ := also
  simp only [clears, Bool.or_eq_true, Bool.and_eq_true, Nat.beq_eq, Nat.blt_eq] at clear
  unfold image at above below otherPlace clear
  rcases clear with (before | behind) | ⟨⟨alternates | alone, second⟩, odd⟩
  · omega
  · omega
  · rw [alternates] at place
    rw [second] at otherPlace
    omega
  · rw [second] at otherPlace
    omega

/-- Whether a run clears everything that the tables start from. -/
def clearsTables (run : CaseRun) : Bool :=
  upperRuns.all run.clears && upperExpansions.all fun entry => run.clears (single entry.1)

end CaseRun

/-! ## Where the tables lead -/

/-- Whether the tables leave a code point alone. -/
def IsUnmapped (code : Nat) : Prop :=
  upperExpansions.lookup code = none ∧ mapCase upperRuns code = code

theorem isUnmapped_image {run : CaseRun} (clear : run.clearsTables = true) {code : Nat}
    (covered : run.covers code = true) : IsUnmapped (run.image code) := by
  simp only [CaseRun.clearsTables, Bool.and_eq_true, List.all_eq_true] at clear
  obtain ⟨runs, expansions⟩ := clear
  constructor
  · rw [List.lookup_eq_none_iff]
    intro entry member
    have apart := CaseRun.covers_image_eq_false (expansions entry member) covered
    rw [bne_iff_ne]
    intro same
    rw [same, CaseRun.covers_single] at apart
    cases apart
  · have uncovered : upperRuns.find? (·.covers (run.image code)) = none := by
      rw [List.find?_eq_none]
      intro other listed also
      rw [CaseRun.covers_image_eq_false (runs other listed) covered] at also
      cases also
    rw [mapCase, uncovered]

theorem isUnmapped_image_of_mem {run : CaseRun} (listed : run ∈ upperRuns) {code : Nat}
    (covered : run.covers code = true) : IsUnmapped (run.image code) := by
  have clear : upperRuns.all CaseRun.clearsTables = true := by decide +kernel
  exact isUnmapped_image (List.all_eq_true.mp clear run listed) covered

theorem isUnmapped_of_lookup {code : Nat} {codes : List Nat}
    (found : upperExpansions.lookup code = some codes) {image : Nat} (member : image ∈ codes) :
    IsUnmapped image := by
  have clear : upperExpansions.all (fun entry =>
      entry.2.all fun image => (CaseRun.single image).clearsTables) = true := by
    decide +kernel
  obtain ⟨before, behind, split, -⟩ := List.lookup_eq_some_iff.mp found
  have listed : (code, codes) ∈ upperExpansions :=
    split ▸ List.mem_append_right _ List.mem_cons_self
  have here := List.all_eq_true.mp (List.all_eq_true.mp clear _ listed) image member
  have unmapped := isUnmapped_image here (CaseRun.covers_single image)
  rwa [CaseRun.image_single] at unmapped

/-! ## Characters and texts -/

theorem upperChar_ofNat {code : Nat} (unmapped : IsUnmapped code)
    (capital : ¬ IsSmall (Char.ofNat code).toNat) :
    upperChar (Char.ofNat code) = [Char.ofNat code] := by
  by_cases ascii : (Char.ofNat code).toNat < 0x80
  · rw [upperChar_of_ascii ascii, toUpper_of_not_isSmall capital]
  · have same : (Char.ofNat code).toNat = code := by
      by_cases valid : code.isValidChar
      · exact toNat_ofNat_of_isValidChar valid
      · rw [Char.ofNat, dif_neg valid] at ascii
        exact absurd (by decide) ascii
    rw [upperChar, if_neg ascii, same, unmapped.1, unmapped.2]

/-- The full upper-case mapping leaves alone what it leads to. -/
theorem upperChar_of_mem_upperChar {c d : Char} (member : d ∈ upperChar c) :
    upperChar d = [d] := by
  have capital := not_isSmall_of_mem_upperChar member
  cases upperImage_of_mem member with
  | ascii plain =>
    have closed : ∀ code < 0x80, (Char.ofNat code).toUpper.toNat < 0x80 := by decide
    have alsoAscii : c.toUpper.toNat < 0x80 := @of_ascii (·.toUpper.toNat < 0x80) closed c plain
    rw [upperChar_of_ascii alsoAscii, toUpper_of_not_isSmall capital]
  | expanded _ found image => exact upperChar_ofNat (isUnmapped_of_lookup found image) capital
  | moved _ listed covered => exact upperChar_ofNat (isUnmapped_image_of_mem listed covered) capital
  | unmapped _ alone => exact alone

/-- An upper-case form is its own upper-case form. -/
theorem Text.upper_upper (text : Text) : text.upper.upper = text.upper := by
  have each : ∀ d ∈ text.upper, upperChar d = [d] := by
    intro d member
    obtain ⟨c, -, from_c⟩ := List.mem_flatMap.mp member
    exact upperChar_of_mem_upperChar from_c
  calc text.upper.upper
      = (text.upper.map upperChar).flatten := List.flatMap_def
    _ = (text.upper.map ([·])).flatten := by rw [List.map_congr_left each]
    _ = text.upper := by rw [← List.flatMap_def, List.flatMap_singleton']

end PseudoLint
