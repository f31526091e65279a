import PseudoLint.Proofs.Diagnostic

/-! # The first diagnostic of each key

What a list adds to the keys seen before is what it keeps by itself, less the diagnostics of those
keys (`dedupFrom_eq_filter`), and which keys a list passes on does not depend on what it keeps
(`dedupFrom_append`). So a list in two parts is deduplicated part by part, and a list that is cut at
the first diagnostic of a key is seen to keep this one.
-/

namespace PseudoLint.Diagnostic

/-- What is kept after some keys is what is kept by itself, less the diagnostics of those keys. -/
theorem dedupFrom_eq_filter (seen : List (Int × Text)) (diagnostics : List Diagnostic) :
    dedupFrom seen diagnostics = (dedup diagnostics).filter fun diagnostic =>
      decide (diagnostic.key ∉ seen) := by
  let fresh (diagnostic : Diagnostic) : Bool := decide (diagnostic.key ∉ seen)
  have determined : ∀ first ∈ diagnostics, ∀ second ∈ diagnostics, first.key = second.key →
      fresh first = fresh second := by
    intro first _ second _ keys
    simp only [fresh, keys]
  have agree : ∀ diagnostic ∈ diagnostics, fresh diagnostic = true →
      seen.contains diagnostic.key = List.contains [] diagnostic.key := by
    intro diagnostic _ unseen
    rw [List.contains_nil, Bool.eq_false_iff, ne_eq, List.contains_iff_mem]
    exact of_decide_eq_true unseen
  have kept : ∀ diagnostic ∈ dedupFrom seen diagnostics, fresh diagnostic = true :=
    fun diagnostic member => decide_eq_true (key_not_mem_of_mem_dedupFrom member)
  calc dedupFrom seen diagnostics
      = (dedupFrom seen diagnostics).filter fresh := (List.filter_eq_self.mpr kept).symm
    _ = dedup (diagnostics.filter fresh) := dedupFrom_filter determined agree
    _ = (dedup diagnostics).filter fresh := (dedup_filter determined).symm

/-- Only which keys were seen counts, not how often or in which order. -/
theorem dedupFrom_congr {seen known : List (Int × Text)} (same : ∀ key, key ∈ seen ↔ key ∈ known)
    (diagnostics : List Diagnostic) :
    dedupFrom seen diagnostics = dedupFrom known diagnostics := by
  rw [dedupFrom_eq_filter, dedupFrom_eq_filter]
  apply List.filter_congr
  intro diagnostic _
  simp only [same]

/-- Behind a list all its keys have been seen, those of the diagnostics it dropped included. -/
theorem dedupFrom_append (seen : List (Int × Text)) (left right : List Diagnostic) :
    dedupFrom seen (left ++ right) =
      dedupFrom seen left ++ dedupFrom (left.map key ++ seen) right := by
  induction left generalizing seen with
  | nil => rfl
  | cons head rest ih =>
    rw [List.cons_append, dedupFrom, dedupFrom]
    split
    · rename_i known
      -- The key of a dropped diagnostic is among those seen before.
      have same : ∀ key, key ∈ rest.map Diagnostic.key ++ seen ↔
          key ∈ (head :: rest).map Diagnostic.key ++ seen := by
        have before : head.key ∈ seen := List.contains_iff_mem.mp known
        intro key
        rw [List.map_cons, List.cons_append, List.mem_cons]
        refine ⟨.inr, ?_⟩
        rintro (rfl | later)
        · exact List.mem_append_right _ before
        · exact later
      rw [ih, dedupFrom_congr same]
    · have same : ∀ key, key ∈ rest.map Diagnostic.key ++ head.key :: seen ↔
          key ∈ (head :: rest).map Diagnostic.key ++ seen :=
        fun key => List.perm_middle.mem_iff
      rw [ih, dedupFrom_congr same, List.cons_append]

/-- A second part keeps what it would keep by itself, without the keys of the first part. -/
theorem dedup_append (left right : List Diagnostic) :
    dedup (left ++ right) = dedup left ++ (dedup right).filter fun diagnostic =>
      decide (diagnostic.key ∉ left.map key) := by
  have parts := dedupFrom_append [] left right
  rw [List.append_nil, dedupFrom_eq_filter (left.map key)] at parts
  exact parts

theorem nodup_map_key_dedup (diagnostics : List Diagnostic) :
    ((dedup diagnostics).map key).Nodup :=
  List.pairwise_map.mpr (pairwise_key_ne_dedupFrom [] diagnostics)

/-- The first diagnostic of a key is kept. -/
theorem mem_dedup_of_find? {diagnostics : List Diagnostic} {sought : Int × Text}
    {first : Diagnostic} (found : diagnostics.find? (·.key == sought) = some first) :
    first ∈ dedup diagnostics := by
  obtain ⟨sameKey, before, later, rfl, others⟩ := List.find?_eq_some_iff_append.mp found
  have unseen : first.key ∉ before.map key := by
    intro known
    obtain ⟨other, member, keys⟩ := List.mem_map.mp known
    have otherKey := others other member
    rw [keys, sameKey] at otherKey
    cases otherKey
  rw [dedup_append]
  apply List.mem_append_right
  exact List.mem_filter.mpr ⟨List.mem_cons_self, decide_eq_true unseen⟩

/-- Deduplication keeps the first diagnostic of each key, whatever the severities and codes: the
kept ones stand in order, no key is kept twice, and the first diagnostic of each key is kept. Doing
it again changes nothing, and of a list in two parts the second one loses the keys of the first. -/
theorem dedup_first_wins (diagnostics others : List Diagnostic) :
    (dedup diagnostics).Sublist diagnostics ∧
    ((dedup diagnostics).map key).Nodup ∧
    (∀ diagnostic ∈ diagnostics, ∃ first ∈ dedup diagnostics,
      diagnostics.find? (·.key == diagnostic.key) = some first) ∧
    dedup (dedup diagnostics) = dedup diagnostics ∧
    dedup (diagnostics ++ others) = dedup diagnostics ++ (dedup others).filter fun other =>
      decide (other.key ∉ diagnostics.map key) := by
  refine ⟨dedup_sublist diagnostics, nodup_map_key_dedup diagnostics, ?_, ?_,
    dedup_append diagnostics others⟩
  · intro diagnostic member
    have present : (diagnostics.find? (·.key == diagnostic.key)).isSome = true :=
      List.find?_isSome.mpr ⟨diagnostic, member, beq_self_eq_true _⟩
    obtain ⟨first, found⟩ := Option.isSome_iff_exists.mp present
    exact ⟨first, mem_dedup_of_find? found, found⟩
  · exact dedup_eq_self (pairwise_key_ne_dedupFrom [] diagnostics)

/-- An error in front of a warning with the same line and message is the one that is kept. -/
theorem error_kept_before_warning :
    let error : Diagnostic := ⟨2, "msg", .error, "E041"⟩
    let warning : Diagnostic := ⟨2, "msg", .warning, "W001"⟩
    warning ∈ [error, warning] ∧ error ∈ dedup [error, warning] := by
  intro error warning
  have second : warning ∈ [error, warning] := List.mem_cons_of_mem _ List.mem_cons_self
  obtain ⟨first, kept, found⟩ := (dedup_first_wins [error, warning] []).2.2.1 warning second
  have same : first = error := by
    have leading : [error, warning].find? (·.key == warning.key) = some error := by decide
    rw [leading] at found
    exact (Option.some.inj found).symm
  exact ⟨second, same ▸ kept⟩

end PseudoLint.Diagnostic
