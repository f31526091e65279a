import PseudoLint.Diagnostic

/-! # Removing duplicates

Deduplication keeps diagnostics of the list it is given and loses no key: each key of the list
still has a diagnostic. It looks at nothing but which keys are equal, so it commutes with leaving
out all diagnostics of some keys, and picks the same places from two lists whose keys are equal at
the same places.
-/

namespace PseudoLint.Diagnostic

theorem dedupFrom_sublist (seen : List (Int × Text)) (diagnostics : List Diagnostic) :
    (dedupFrom seen diagnostics).Sublist diagnostics := by
  induction diagnostics generalizing seen with
  | nil => exact .slnil
  | cons head rest ih =>
    rw [dedupFrom]
    split
    · exact (ih seen).cons head
    · exact (ih _).cons_cons head

/-- What is kept stands in the order of the list. -/
theorem dedup_sublist (diagnostics : List Diagnostic) :
    (dedup diagnostics).Sublist diagnostics :=
  dedupFrom_sublist [] diagnostics

theorem mem_of_mem_dedup {diagnostics : List Diagnostic} {diagnostic : Diagnostic}
    (member : diagnostic ∈ dedup diagnostics) : diagnostic ∈ diagnostics :=
  (dedup_sublist diagnostics).subset member

/-- A key that was not seen before keeps a diagnostic. -/
theorem exists_mem_dedupFrom {seen : List (Int × Text)} {diagnostics : List Diagnostic}
    {diagnostic : Diagnostic} (member : diagnostic ∈ diagnostics)
    (fresh : seen.contains diagnostic.key = false) :
    ∃ kept ∈ dedupFrom seen diagnostics, kept.key = diagnostic.key := by
  induction diagnostics generalizing seen with
  | nil => cases member
  | cons head rest ih =>
    simp only [dedupFrom]
    split
    · rename_i known
      rcases List.mem_cons.mp member with rfl | later
      · rw [fresh] at known
        cases known
      · exact ih later fresh
    · by_cases same : diagnostic.key = head.key
      · exact ⟨head, List.mem_cons_self, same.symm⟩
      · rcases List.mem_cons.mp member with rfl | later
        · exact (same rfl).elim
        · have stillFresh : (head.key :: seen).contains diagnostic.key = false := by
            rw [List.contains_cons, fresh, Bool.or_false]
            exact beq_false_of_ne same
          obtain ⟨kept, present, keys⟩ := ih later stillFresh
          exact ⟨kept, List.mem_cons_of_mem _ present, keys⟩

theorem exists_mem_dedup {diagnostics : List Diagnostic} {diagnostic : Diagnostic}
    (member : diagnostic ∈ diagnostics) :
    ∃ kept ∈ dedup diagnostics, kept.key = diagnostic.key :=
  exists_mem_dedupFrom member rfl

theorem key_not_mem_of_mem_dedupFrom {seen : List (Int × Text)} {diagnostics : List Diagnostic}
    {diagnostic : Diagnostic} (member : diagnostic ∈ dedupFrom seen diagnostics) :
    diagnostic.key ∉ seen := by
  induction diagnostics generalizing seen with
  | nil => cases member
  | cons head rest ih =>
    simp only [dedupFrom] at member
    split at member
    · exact ih member
    · rename_i fresh
      rcases List.mem_cons.mp member with rfl | later
      · simpa only [List.contains_iff_mem] using fresh
      · exact fun known => ih later (List.mem_cons_of_mem _ known)

/-- No key is kept twice. -/
theorem pairwise_key_ne_dedupFrom (seen : List (Int × Text)) (diagnostics : List Diagnostic) :
    (dedupFrom seen diagnostics).Pairwise fun first second => first.key ≠ second.key := by
  induction diagnostics generalizing seen with
  | nil => exact .nil
  | cons head rest ih =>
    rw [dedupFrom]
    split
    · exact ih seen
    · refine List.pairwise_cons.mpr ⟨fun later member same => ?_, ih _⟩
      exact key_not_mem_of_mem_dedupFrom member (same ▸ List.mem_cons_self)

theorem nodup_dedup (diagnostics : List Diagnostic) : (dedup diagnostics).Nodup :=
  (pairwise_key_ne_dedupFrom [] diagnostics).imp fun keys same => keys (congrArg key same)

/-- A key that is kept is kept once. -/
theorem countP_key_dedup {diagnostics : List Diagnostic} {diagnostic : Diagnostic}
    (member : diagnostic ∈ dedup diagnostics) :
    (dedup diagnostics).countP (·.key == diagnostic.key) = 1 := by
  obtain ⟨before, later, split⟩ := List.append_of_mem member
  have distinct := pairwise_key_ne_dedupFrom [] diagnostics
  rw [← dedup, split] at distinct
  obtain ⟨-, behind, apart⟩ := List.pairwise_append.mp distinct
  have front : before.countP (·.key == diagnostic.key) = 0 :=
    List.countP_eq_zero.mpr fun other early same =>
      apart other early diagnostic List.mem_cons_self (beq_iff_eq.mp same)
  have back : later.countP (·.key == diagnostic.key) = 0 :=
    List.countP_eq_zero.mpr fun other late same =>
      (List.pairwise_cons.mp behind).1 other late (beq_iff_eq.mp same).symm
  rw [split, List.countP_append, List.countP_cons, front, back, beq_self_eq_true, if_pos rfl]

/-- Nothing is removed where no key is seen twice. -/
theorem dedupFrom_eq_self {seen : List (Int × Text)} {diagnostics : List Diagnostic}
    (fresh : ∀ diagnostic ∈ diagnostics, diagnostic.key ∉ seen)
    (distinct : diagnostics.Pairwise fun first second => first.key ≠ second.key) :
    dedupFrom seen diagnostics = diagnostics := by
  induction diagnostics generalizing seen with
  | nil => rfl
  | cons head rest ih =>
    obtain ⟨apart, others⟩ := List.pairwise_cons.mp distinct
    have unseen : seen.contains head.key = false :=
      Bool.eq_false_iff.mpr fun known =>
        fresh head List.mem_cons_self (List.contains_iff_mem.mp known)
    have later : ∀ diagnostic ∈ rest, diagnostic.key ∉ head.key :: seen := by
      intro diagnostic member known
      rcases List.mem_cons.mp known with same | before
      · exact apart diagnostic member same.symm
      · exact fresh diagnostic (List.mem_cons_of_mem _ member) before
    rw [dedupFrom, unseen, ih later others]
    rfl

theorem dedup_eq_self {diagnostics : List Diagnostic}
    (distinct : diagnostics.Pairwise fun first second => first.key ≠ second.key) :
    dedup diagnostics = diagnostics :=
  dedupFrom_eq_self (fun _ _ => List.not_mem_nil) distinct

/-- What is left out together with its key plays no part in removing duplicates. -/
theorem dedupFrom_filter {keep : Diagnostic → Bool} {seen known : List (Int × Text)}
    {diagnostics : List Diagnostic}
    (determined : ∀ first ∈ diagnostics, ∀ second ∈ diagnostics, first.key = second.key →
      keep first = keep second)
    (agree : ∀ diagnostic ∈ diagnostics, keep diagnostic = true →
      seen.contains diagnostic.key = known.contains diagnostic.key) :
    (dedupFrom seen diagnostics).filter keep = dedupFrom known (diagnostics.filter keep) := by
  induction diagnostics generalizing seen known with
  | nil => rfl
  | cons head rest ih =>
    have laterDetermined : ∀ first ∈ rest, ∀ second ∈ rest, first.key = second.key →
        keep first = keep second :=
      fun first firstIn second secondIn =>
        determined first (List.mem_cons_of_mem _ firstIn) second (List.mem_cons_of_mem _ secondIn)
    have laterAgree : ∀ diagnostic ∈ rest, keep diagnostic = true →
        seen.contains diagnostic.key = known.contains diagnostic.key :=
      fun diagnostic member => agree diagnostic (List.mem_cons_of_mem _ member)
    cases kept : keep head with
    | true =>
      rw [List.filter_cons_of_pos kept, dedupFrom, dedupFrom, ← agree head List.mem_cons_self kept]
      split
      · exact ih laterDetermined laterAgree
      · rw [List.filter_cons_of_pos kept]
        congr 1
        apply ih laterDetermined
        intro diagnostic member keeps
        rw [List.contains_cons, List.contains_cons, laterAgree diagnostic member keeps]
    | false =>
      rw [List.filter_cons_of_neg (by rw [kept]; exact Bool.false_ne_true), dedupFrom]
      split
      · exact ih laterDetermined laterAgree
      · rw [List.filter_cons_of_neg (by rw [kept]; exact Bool.false_ne_true)]
        apply ih laterDetermined
        intro diagnostic member keeps
        -- A kept diagnostic has another key than the one that is left out.
        have other : diagnostic.key ≠ head.key := by
          intro same
          have equal := determined diagnostic (List.mem_cons_of_mem _ member) head
            List.mem_cons_self same
          rw [keeps, kept] at equal
          cases equal
        rw [List.contains_cons, beq_false_of_ne other, Bool.false_or]
        exact laterAgree diagnostic member keeps

theorem dedup_filter {keep : Diagnostic → Bool} {diagnostics : List Diagnostic}
    (determined : ∀ first ∈ diagnostics, ∀ second ∈ diagnostics, first.key = second.key →
      keep first = keep second) :
    (dedup diagnostics).filter keep = dedup (diagnostics.filter keep) :=
  dedupFrom_filter determined fun _ _ _ => rfl

/-- Two wordings of the same items, with equal keys for the same items, keep the same items. -/
theorem dedupFrom_map {ι : Type} {first second : ι → Diagnostic} {items : List ι}
    {seen known : List (Int × Text)}
    (alike : ∀ item ∈ items, ∀ other ∈ items,
      (first item).key = (first other).key ↔ (second item).key = (second other).key)
    (agree : ∀ item ∈ items,
      seen.contains (first item).key = known.contains (second item).key) :
    ∃ kept : List ι, kept.Sublist items ∧ dedupFrom seen (items.map first) = kept.map first ∧
      dedupFrom known (items.map second) = kept.map second := by
  induction items generalizing seen known with
  | nil => exact ⟨[], .slnil, rfl, rfl⟩
  | cons item rest ih =>
    have laterAlike : ∀ item ∈ rest, ∀ other ∈ rest,
        (first item).key = (first other).key ↔ (second item).key = (second other).key :=
      fun item member other present =>
        alike item (List.mem_cons_of_mem _ member) other (List.mem_cons_of_mem _ present)
    have laterAgree : ∀ item ∈ rest,
        seen.contains (first item).key = known.contains (second item).key :=
      fun item member => agree item (List.mem_cons_of_mem _ member)
    simp only [List.map_cons, dedupFrom, ← agree item List.mem_cons_self]
    cases repeated : seen.contains (first item).key with
    | true =>
      obtain ⟨kept, sublist, left, right⟩ := ih laterAlike laterAgree
      exact ⟨kept, sublist.cons item, left, right⟩
    | false =>
      have nextAgree : ∀ other ∈ rest,
          ((first item).key :: seen).contains (first other).key =
            ((second item).key :: known).contains (second other).key := by
        intro other member
        have keys := alike other (List.mem_cons_of_mem _ member) item List.mem_cons_self
        rw [List.contains_cons, List.contains_cons, laterAgree other member]
        congr 1
        exact Bool.eq_iff_iff.mpr (by simpa only [beq_iff_eq] using keys)
      obtain ⟨kept, sublist, left, right⟩ := ih laterAlike nextAgree
      refine ⟨item :: kept, sublist.cons_cons item, ?_, ?_⟩
      · simp only [Bool.false_eq_true, ↓reduceIte, left, List.map_cons]
      · simp only [Bool.false_eq_true, ↓reduceIte, right, List.map_cons]

theorem dedup_map {ι : Type} {first second : ι → Diagnostic} {items : List ι}
    (alike : ∀ item ∈ items, ∀ other ∈ items,
      (first item).key = (first other).key ↔ (second item).key = (second other).key) :
    ∃ kept : List ι, kept.Sublist items ∧ dedup (items.map first) = kept.map first ∧
      dedup (items.map second) = kept.map second :=
  dedupFrom_map alike fun _ _ => rfl

theorem allValid_iff {diagnostics : List Diagnostic} :
    allValid diagnostics = true ↔ ∀ diagnostic ∈ diagnostics, diagnostic.severity ≠ .error := by
  simp only [allValid, Bool.not_eq_true', List.any_eq_false, isError, beq_iff_eq]

end PseudoLint.Diagnostic
