import PseudoLint.Proofs.Check.Registration
import PseudoLint.Proofs.Check.Verdict

/-! # Undeclared names and the symbol table

A name is reported as undeclared only where the table after its line does not declare it. A table
never forgets a name, so no line up to there has registered the name, and a symbol of this name in
the final table comes from a later line, whose number it carries. This holds although a binding
replaces the symbol of a name together with its line.
-/

namespace PseudoLint

theorem Finding.eq_undeclared_of_topic {finding : Finding} (about : finding.topic = .undeclared) :
    ∃ name, finding = .undeclared name := by
  cases finding with
  | undeclared name => exact ⟨name, rfl⟩
  | _ => cases about

namespace Check

/-- A name that a line reports as undeclared is not declared by the table after the line. -/
theorem not_isDeclared_of_undeclared {config : Config} {line : Line} {state : State} {name : Text}
    (found : Finding.undeclared name ∈ findings config line state) :
    (advance line.statement state).table.isDeclared name = false := by
  rcases List.mem_append.mp (mem_findings_iff.mp found) with target | usage
  · unfold Rule.targetFindings at target
    split at target
    · obtain ⟨absent, same⟩ := Rule.mem_whenever.mp target
      cases same
      exact (Bool.not_eq_true' _).mp absent
    · cases target
  · unfold Rule.usageFindings at usage
    split at usage
    · obtain ⟨use, present, same⟩ := List.mem_map.mp usage
      cases same
      exact (Bool.not_eq_true' _).mp (Bool.and_eq_true_iff.mp (List.mem_filter.mp present).2).2
    · cases usage

/-- Every diagnostic with the code of undeclared names words a report on such a name. -/
theorem exists_undeclared_report {config : Config} {source : Text} {diagnostic : Diagnostic}
    (member : diagnostic ∈ (outcome config source).emitted) (code : diagnostic.code = "E041") :
    ∃ name, diagnostic.message = (Finding.undeclared name).message ∧
      (diagnostic.line, .undeclared name) ∈ reports config (Line.contentOf source) {} := by
  obtain ⟨⟨line, finding⟩, rfl, origin⟩ := report_of_mem_emitted member
  have topic : finding.topic = .undeclared := Finding.code_eq_undeclared_iff.mp code
  obtain ⟨name, rfl⟩ := Finding.eq_undeclared_of_topic topic
  exact ⟨name, rfl, origin.resolve_right Bool.false_ne_true⟩

/-- A symbol that is in the table after some more lines, but whose name was not declared before
them, carries the number of one of these lines. -/
theorem line_of_mem_globals_after {lines : List Line} {state : State} {entry : Text × Symbol}
    (member : entry ∈ (after lines state).table.globals) (keyed : state.table.Keyed)
    (absent : state.table.isDeclared entry.2.name = false) :
    ∃ line ∈ lines, entry.2.line = line.number := by
  rw [after_table] at member
  rcases SymbolTable.mem_globals_registerAll member with present | offered
  · have declared : state.table.isDeclared entry.2.name = true := by
      rw [SymbolTable.isDeclared_iff, ← keyed.globals entry present]
      exact List.mem_map_of_mem present
    rw [declared] at absent
    cases absent
  · rw [filterMap_global?_registrations] at offered
    obtain ⟨line, present, symbol⟩ := List.mem_flatMap.mp offered
    exact ⟨line, present, Statement.line_of_mem_globals symbol⟩

theorem isDeclared_after {lines : List Line} {line : Line} {symbol : Symbol} (state : State)
    (member : line ∈ lines) (offered : symbol ∈ line.statement.globals) :
    (after lines state).table.isDeclared symbol.name = true := by
  rw [after_table, SymbolTable.isDeclared_registerAll_iff, filterMap_global?_registrations]
  exact .inr ⟨symbol, List.mem_flatMap.mpr ⟨line, member, offered⟩, rfl⟩

/-- Whether a name is declared depends on its lower-case form only. -/
theorem isDeclared_congr {table : SymbolTable} {first second : Text}
    (same : first.lower = second.lower) : table.isDeclared first = table.isDeclared second := by
  rw [SymbolTable.isDeclared, SymbolTable.resolve?, same]
  rfl

/-- A name that the first line declares is never reported as undeclared. -/
theorem undeclared_not_mem_of_first {config : Config} {source : Text} {first : Line}
    {rest : List Line} {symbol : Symbol} (content : Line.contentOf source = first :: rest)
    (offered : symbol ∈ first.statement.globals) (number : Int) :
    (Finding.undeclared symbol.name).on number ∉ (outcome config source).diagnostics := by
  intro reported
  obtain ⟨name, words, report⟩ :=
    exists_undeclared_report (Diagnostic.mem_of_mem_dedup reported) rfl
  have same : symbol.name = name := List.append_cancel_left (List.append_cancel_right words)
  obtain ⟨before, line, later, split, -, found⟩ := mem_reports_iff.mp report
  have sofar : first ∈ before ++ [line] := by
    rw [content] at split
    cases before with
    | nil => exact (List.cons.inj split).1 ▸ List.mem_cons_self
    | cons other before => exact (List.cons.inj split).1 ▸ List.mem_cons_self
  have declared := isDeclared_after {} sofar offered
  rw [after_append, same] at declared
  have absent := not_isDeclared_of_undeclared found
  rw [after_cons, after_nil, absent] at declared
  cases declared

/-- An entry of a scope shows a symbol of the part of the final table that the scope stands for. -/
theorem stored_of_mem_symbols {config : Config} {source scope : Text} {entry : ListingEntry}
    (content : Line.anyContent (Line.ofSource source) = true)
    (member : entry ∈ Listing.entriesIn scope (outcome config source).symbols) :
    let table := (after (Line.contentOf source) {}).table
    (scope = "GLOBAL __global__" ∧ ∃ stored ∈ table.globals, stored.2.entry = entry) ∨
      (scope = "FUNCTIONS" ∧ ∃ stored ∈ table.functions, stored.2.entry = entry) ∨
      (scope = "ARRAYS" ∧ ∃ stored ∈ table.arrays, stored.2.entry = entry) := by
  intro table
  have held {α : Type} {title : Text} {registry : Registry α} {entryOf : α → ListingEntry}
      (listed : entry ∈ if title = scope then registry.values.map entryOf else []) :
      scope = title ∧ ∃ stored ∈ registry, entryOf stored.2 = entry := by
    split at listed
    · rename_i same
      obtain ⟨value, present, shown⟩ := List.mem_map.mp listed
      obtain ⟨stored, inside, rfl⟩ := List.mem_map.mp present
      exact ⟨same.symm, stored, inside, shown⟩
    · cases listed
  rw [symbols_outcome content, SymbolTable.entriesIn_listing] at member
  rcases List.mem_append.mp member with globals | others
  · exact .inl (held globals)
  · exact .inr ((List.mem_append.mp others).imp held held)

theorem mem_globals_of_mem_symbols {config : Config} {source : Text} {entry : ListingEntry}
    (content : Line.anyContent (Line.ofSource source) = true)
    (member : entry ∈ Listing.entriesIn "GLOBAL __global__" (outcome config source).symbols) :
    ∃ stored ∈ (after (Line.contentOf source) {}).table.globals, stored.2.entry = entry := by
  rcases stored_of_mem_symbols content member with ⟨-, held⟩ | ⟨other, -⟩ | ⟨other, -⟩
  · exact held
  · exact absurd other (by decide)
  · exact absurd other (by decide)

/-- A name that is reported as undeclared on a line is listed in the global scope with greater lines
only, and neither this line nor one before it declares a variable, a constant or a parameter of this
name. -/
theorem undeclared_only_before_registration {config : Config} {source : Text} {check : Check}
    (ran : run config source = .ok check) {diagnostic : Diagnostic}
    (reported : diagnostic ∈ check.diagnostics) (code : diagnostic.code = "E041") {name : Text}
    (message : diagnostic.message = "Variable '" ++ name ++ "' must be declared before use") :
    (∀ entry ∈ Listing.entriesIn "GLOBAL __global__" check.symbols,
      entry.name.lower = name.lower → diagnostic.line < entry.line) ∧
    ∀ line ∈ Line.contentOf source, line.number ≤ diagnostic.line →
      ∀ symbol ∈ line.statement.globals, symbol.name.lower ≠ name.lower := by
  obtain ⟨rfl, -⟩ := run_eq_ok ran
  obtain ⟨reportedName, words, report⟩ :=
    exists_undeclared_report (Diagnostic.mem_of_mem_dedup reported) code
  have same : reportedName = name := by
    rw [words] at message
    exact List.append_cancel_left (List.append_cancel_right message)
  subst same
  obtain ⟨before, line, later, split, number, found⟩ := mem_reports_iff.mp report
  dsimp only at number found
  rw [number]
  have behind : ∀ other ∈ later, line.number < other.number := by
    have ordered := Line.pairwise_contentOf source
    rw [split] at ordered
    exact (List.pairwise_cons.mp (List.pairwise_append.mp ordered).2.1).1
  -- The run is cut behind the reporting line: the name is absent there.
  have cut : Line.contentOf source = (before ++ [line]) ++ later := by
    rw [split, List.append_assoc, List.singleton_append]
  have absent : (after (before ++ [line]) {}).table.isDeclared reportedName = false := by
    rw [after_append]
    exact not_isDeclared_of_undeclared found
  constructor
  · intro entry member spelled
    have reporting : line ∈ Line.contentOf source := by
      rw [split]
      exact List.mem_append_right _ List.mem_cons_self
    obtain ⟨stored, present, rfl⟩ :=
      mem_globals_of_mem_symbols (Line.anyContent_of_mem reporting) member
    rw [cut, after_append] at present
    rw [← isDeclared_congr spelled] at absent
    obtain ⟨other, registering, sameLine⟩ :=
      line_of_mem_globals_after present (keyed_after _) absent
    have greater := behind other registering
    change line.number < stored.2.line
    omega
  · intro other present bound symbol offered spelled
    rw [cut] at present
    rcases List.mem_append.mp present with sofar | registering
    · have declared := isDeclared_after {} sofar offered
      rw [isDeclared_congr spelled, absent] at declared
      cases declared
    · have greater := behind other registering
      omega

/-- A use above the declaration is reported, and the name is listed with the line of the constant
that took its place. -/
theorem use_above_declaration_reported :
    ∃ check, run {} "OUTPUT Total\nDECLARE total : REAL\nCONSTANT TOTAL = 1" = .ok check ∧
      ∃ diagnostic ∈ check.diagnostics, diagnostic.code = "E041" ∧
        diagnostic.message = "Variable '" ++ "Total" ++ "' must be declared before use" ∧
        (∃ entry ∈ Listing.entriesIn "GLOBAL __global__" check.symbols,
          entry.name.lower = Text.lower "Total") ∧
        ∀ entry ∈ Listing.entriesIn "GLOBAL __global__" check.symbols,
          entry.name.lower = Text.lower "Total" → diagnostic.line < entry.line := by
  have ran := run_of_isOk {} "OUTPUT Total\nDECLARE total : REAL\nCONSTANT TOTAL = 1"
    (by decide +kernel)
  have reported : (Finding.undeclared "Total").on 1 ∈
      (outcome {} "OUTPUT Total\nDECLARE total : REAL\nCONSTANT TOTAL = 1").diagnostics := by
    decide +kernel
  have listed : ∃ entry ∈ Listing.entriesIn "GLOBAL __global__"
      (outcome {} "OUTPUT Total\nDECLARE total : REAL\nCONSTANT TOTAL = 1").symbols,
      entry.name.lower = Text.lower "Total" := by
    decide +kernel
  exact ⟨_, ran, _, reported, rfl, rfl, listed,
    (undeclared_only_before_registration ran reported rfl rfl).1⟩

end Check

end PseudoLint
