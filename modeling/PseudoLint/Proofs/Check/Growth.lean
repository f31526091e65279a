import PseudoLint.Proofs.Check.Registration
import PseudoLint.Proofs.Check.Verdict

/-! # Continued sources

Text that is added after a source changes nothing that was found in it, except what is decided at
the end: whether an open block is closed and which type a name has in the final table. The line pass
of the longer source begins with that of the shorter one. Each sweep but the one for lengths says of
a line what the lines up to some point decide, and more lines leave that decision as it is.
-/

namespace PseudoLint

/-! ## Sweeps -/

namespace Sweep

theorem extraClosersAfter_append (earlier first second : List Statement) :
    extraClosersAfter earlier (first ++ second) =
      extraClosersAfter earlier first ++ extraClosersAfter (first.reverse ++ earlier) second := by
  induction first generalizing earlier with
  | nil => rfl
  | cons statement rest ih =>
    simp only [List.cons_append, extraClosersAfter, ih, List.append_assoc, List.reverse_cons,
      List.nil_append]

theorem mem_extraClosers_append {first : List Statement} {diagnostic : Diagnostic}
    (member : diagnostic ∈ extraClosers first) (second : List Statement) :
    diagnostic ∈ extraClosers (first ++ second) := by
  rw [extraClosers, extraClosersAfter_append]
  exact List.mem_append_left _ member

/-- The first statement with a property stays the first one. -/
theorem find?_append_of_some {P : Statement → Bool} {first : List Statement} {found : Statement}
    (first? : first.find? P = some found) (second : List Statement) :
    (first ++ second).find? P = some found := by
  rw [List.find?_append, first?, Option.some_or]

theorem mem_endfors_append {first : List Statement} {diagnostic : Diagnostic}
    (member : diagnostic ∈ endfors first) (second : List Statement) :
    diagnostic ∈ endfors (first ++ second) := by
  induction first with
  | nil => cases member
  | cons statement rest ih =>
    rw [endfors_cons] at member
    rw [List.cons_append, endfors_cons]
    rcases List.mem_append.mp member with here | there
    · refine List.mem_append_left _ ?_
      split at here
      · rename_i loop
        obtain ⟨ending, found, rfl⟩ := List.mem_map.mp here
        rw [if_pos loop, find?_append_of_some (Option.mem_toList.mp found)]
        exact List.mem_singleton.mpr rfl
      · cases here
    · exact List.mem_append_right _ (ih there)

theorem mem_emptyFors_append {first : List Statement} {diagnostic : Diagnostic}
    (member : diagnostic ∈ emptyFors first) (second : List Statement) :
    diagnostic ∈ emptyFors (first ++ second) := by
  induction first with
  | nil => cases member
  | cons statement rest ih =>
    rw [List.cons_append, emptyFors]
    rcases List.mem_append.mp member with here | there
    · refine List.mem_append_left _ ?_
      cases next : rest.find? (·.isContent) with
      | none =>
        rw [next, Option.any_none, Bool.and_false] at here
        cases here
      | some follower =>
        rw [next] at here
        rwa [find?_append_of_some next]
    · exact List.mem_append_right _ (ih there)

theorem code_of_mem_lengths {table : SymbolTable} {statements : List Statement}
    {diagnostic : Diagnostic} (member : diagnostic ∈ lengths table statements) :
    diagnostic.code = "E046" := by
  obtain ⟨line, type, rfl⟩ := exists_lengthOfOther_of_mem member
  rfl

/-- Only what is said about lengths depends on the final table. -/
theorem mem_all_append {table final : SymbolTable} {first : List Statement}
    {diagnostic : Diagnostic} (member : diagnostic ∈ all table first)
    (other : diagnostic.code ≠ "E046") (second : List Statement) :
    diagnostic ∈ all final (first ++ second) := by
  simp only [all, List.mem_append] at member ⊢
  rcases member with ((closer | endfor) | length) | empty
  · exact .inl (.inl (.inl (mem_extraClosers_append closer second)))
  · exact .inl (.inl (.inr (mem_endfors_append endfor second)))
  · exact (other (code_of_mem_lengths length)).elim
  · exact .inr (mem_emptyFors_append empty second)

end Sweep

/-! ## Listings -/

/-- The lower-case names that a scope lists, in order. -/
def Listing.keysIn (scope : Text) (listings : List Listing) : List Text :=
  (entriesIn scope listings).map (·.name.lower)

namespace SymbolTable

theorem Keyed.keysIn_listing {table : SymbolTable} (keyed : table.Keyed) (scope : Text) :
    Listing.keysIn scope table.listing =
      (if "GLOBAL __global__" = scope then table.globals.names else []) ++
        ((if "FUNCTIONS" = scope then table.functions.names else []) ++
          (if "ARRAYS" = scope then table.arrays.names else [])) := by
  rw [Listing.keysIn, entriesIn_listing, keyed.globals.names_eq, keyed.functions.names_eq,
    keyed.arrays.names_eq]
  simp only [List.map_append, apply_ite (List.map _), List.map_nil, List.map_map]
  rfl

theorem Extends.keysIn_prefix {old new : SymbolTable} (extension : old.Extends new)
    (oldKeyed : old.Keyed) (newKeyed : new.Keyed) (scope : Text) :
    Listing.keysIn scope old.listing <+: Listing.keysIn scope new.listing := by
  rw [oldKeyed.keysIn_listing, newKeyed.keysIn_listing]
  -- The three titles differ, so at most one scope contributes.
  by_cases global : ("GLOBAL __global__" : Text) = scope
  · subst global
    simpa using extension.globals
  by_cases function : ("FUNCTIONS" : Text) = scope
  · subst function
    simpa using extension.functions
  by_cases array : ("ARRAYS" : Text) = scope
  · subst array
    simpa using extension.arrays
  · simp only [if_neg global, if_neg function, if_neg array]
    exact List.prefix_refl _

end SymbolTable

/-! ## Runs -/

namespace Line

/-- The lines with content of a continued source are those of the source and some more. -/
theorem contentOf_continued (source addition : Text) : ∃ more,
    contentOf (source ++ '\n' :: addition) = contentOf source ++ more := by
  refine ⟨(enumerate (1 + source.lines.length) addition.lines).filter isContent, ?_⟩
  rw [contentOf, ofSource_continued, List.filter_append, contentOf]

end Line

namespace Check

theorem message_of_unmatchedReport (frame : Frame) :
    (worded (unmatchedReport frame)).message =
      "Unmatched " ++ frame.keyword ++ " - missing " ++ frame.closer?.getD [] :=
  rfl

/-- Adding text after a source retracts no diagnostic but those on lengths and on open blocks, and
keeps the listed names in their order. -/
theorem continued_source_keeps_findings {config : Config} {source addition : Text}
    {check longer : Check} (content : Line.anyContent (Line.ofSource source) = true)
    (ran : run config source = .ok check)
    (ranOn : run config (source ++ '\n' :: addition) = .ok longer) :
    (∀ diagnostic ∈ check.diagnostics, diagnostic.code ≠ "E046" →
      (¬ ∃ opener closer : Text,
        diagnostic.message = "Unmatched " ++ opener ++ " - missing " ++ closer) →
      diagnostic ∈ longer.diagnostics) ∧
    ∀ scope : Text, Listing.keysIn scope check.symbols <+: Listing.keysIn scope longer.symbols := by
  obtain ⟨rfl, -⟩ := run_eq_ok ran
  obtain ⟨rfl, -⟩ := run_eq_ok ranOn
  obtain ⟨more, lines⟩ := Line.contentOf_continued source addition
  have stillContent : Line.anyContent (Line.ofSource (source ++ '\n' :: addition)) = true := by
    rw [Line.ofSource_continued, Line.anyContent, List.any_append, Bool.or_eq_true]
    exact .inl content
  constructor
  · intro diagnostic member notLength notUnmatched
    rw [mem_diagnostics_iff] at member ⊢
    rw [emitted_outcome content, List.mem_append, List.mem_append] at member
    rw [emitted_outcome stillContent, lines, reports_append, List.map_append,
      Line.ofSource_continued, List.map_append]
    rcases member with (reported | unclosed) | swept
    · exact List.mem_append_left _ (List.mem_append_left _ (List.mem_append_left _ reported))
    · obtain ⟨frame, -, rfl⟩ := List.mem_map.mp unclosed
      exact (notUnmatched ⟨_, _, message_of_unmatchedReport frame⟩).elim
    · exact List.mem_append_right _ (Sweep.mem_all_append swept notLength _)
  · intro scope
    have extension := extends_after more (after (Line.contentOf source) {})
    rw [← after_append] at extension
    rw [symbols_outcome content, symbols_outcome stillContent, lines]
    exact extension.keysIn_prefix (keyed_after _) (keyed_after _) scope

/-- A declaration that is added below a use does not retract the report on the use. -/
theorem late_declaration_retracts_nothing :
    Line.anyContent (Line.ofSource "OUTPUT x") = true ∧
      ∃ check longer, run {} "OUTPUT x" = .ok check ∧
        run {} ("OUTPUT x" ++ '\n' :: "DECLARE x : REAL") = .ok longer ∧
        (Finding.undeclared "x").on 1 ∈ check.diagnostics ∧
        (Finding.undeclared "x").on 1 ∈ longer.diagnostics ∧
        ∀ scope : Text,
          Listing.keysIn scope check.symbols <+: Listing.keysIn scope longer.symbols := by
  have content : Line.anyContent (Line.ofSource "OUTPUT x") = true := by decide +kernel
  have ran := run_of_isOk {} "OUTPUT x" (by decide +kernel)
  have ranOn := run_of_isOk {} ("OUTPUT x" ++ '\n' :: "DECLARE x : REAL") (by decide +kernel)
  have reported : (Finding.undeclared "x").on 1 ∈ (outcome {} "OUTPUT x").diagnostics := by
    decide +kernel
  obtain ⟨kept, ordered⟩ := continued_source_keeps_findings content ran ranOn
  refine ⟨content, _, _, ran, ranOn, reported, kept _ reported (by decide) ?_, ordered⟩
  rintro ⟨opener, closer, message⟩
  cases message

end Check

end PseudoLint
