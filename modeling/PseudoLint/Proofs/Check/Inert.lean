import PseudoLint.Proofs.Check.Renumbering
import PseudoLint.Proofs.Literal

/-! # Blank lines and comments

The line pass takes only lines with content. The sweeps see all lines, but a blank line opens and
closes nothing and neither does a comment, whose code is empty however its quotes are placed. So a
source without its blank lines and comments is checked to the same effect, on lines that are
numbered anew.
-/

namespace PseudoLint

/-! ## Remarks -/

/-- A text that is empty or begins with a slash. -/
def Text.IsRemark (text : Text) : Prop :=
  text.head?.all (· == '/') = true

namespace Text

/-- A remark begins with nothing that begins otherwise. -/
theorem IsRemark.startsWith_eq_false {text start : Text} (remark : text.IsRemark)
    (other : start.head?.any (· != '/') = true) : text.startsWith start = false := by
  cases start with
  | nil => cases other
  | cons c rest =>
    cases text with
    | nil => rfl
    | cons d tail =>
      have first : d = '/' := beq_iff_eq.mp remark
      have differs : (c == d) = false := by
        rw [first]
        exact beq_false_of_ne (bne_iff_ne.mp other)
      simp only [startsWith, List.isPrefixOf, differs, Bool.false_and]

theorem IsRemark.beq_eq_false {text word : Text} (remark : text.IsRemark)
    (other : word.head?.any (· != '/') = true) : (text == word) = false := by
  apply beq_false_of_ne
  rintro rfl
  have begins : text.startsWith text = true := List.isPrefixOf_iff_prefix.mpr (List.prefix_refl _)
  rw [remark.startsWith_eq_false other] at begins
  cases begins

end Text

namespace Statement

/-- What is not content is blank or a comment. -/
theorem text_of_not_isContent {statement : Statement} (empty : statement.isContent = false) :
    statement.text = [] ∨ ∃ rest, statement.text = '/' :: '/' :: rest := by
  cases blank : statement.isBlank with
  | true => exact .inl (List.isEmpty_iff.mp blank)
  | false =>
    have comment : statement.isComment = true := by
      simpa [isContent, blank] using empty
    rw [isComment, Text.startsWith, String.toList_ofList] at comment
    obtain ⟨rest, text⟩ := List.isPrefixOf_iff_prefix.mp comment
    exact .inr ⟨rest, text.symm⟩

theorem isRemark_text {statement : Statement} (empty : statement.isContent = false) :
    statement.text.IsRemark := by
  rcases text_of_not_isContent empty with text | ⟨rest, text⟩
  · rw [text]
    rfl
  · rw [text]
    rfl

theorem isRemark_firstWord {statement : Statement} (empty : statement.isContent = false) :
    statement.firstWord.IsRemark := by
  rcases text_of_not_isContent empty with text | ⟨rest, text⟩
  · rw [firstWord, words, text]
    rfl
  · have solid : PseudoLint.isBlank '/' = false := by decide
    obtain ⟨first, others, runs⟩ := Text.runs_cons_of_inside solid ('/' :: rest)
    rw [firstWord, words, text, Text.words, runs]
    rfl

theorem code_of_not_isContent {statement : Statement} (empty : statement.isContent = false)
    (free : '\n' ∉ statement.text) : statement.code = [] := by
  rcases text_of_not_isContent empty with text | ⟨rest, text⟩
  · rw [code, text]
    rfl
  · rw [text] at free
    rw [code, text, codeOf_comment]
    intro member
    exact free (List.mem_cons_of_mem _ (List.mem_cons_of_mem _ member))

end Statement

/-! ## The sweeps -/

namespace Sweep

/-- Statements with a property that no remark has are counted among the statements with content. -/
theorem countP_filter {holds : Statement → Bool}
    (only : ∀ statement, statement.isContent = false → holds statement = false)
    (statements : List Statement) :
    (statements.filter Statement.isContent).countP holds = statements.countP holds := by
  rw [List.countP_filter]
  apply List.countP_congr
  intro statement _
  cases content : statement.isContent with
  | true => rw [Bool.and_true]
  | false => rw [only statement content, Bool.false_and]

/-- A statement with a property that no remark has is found among the statements with content. -/
theorem find?_filter {holds : Statement → Bool}
    (only : ∀ statement, statement.isContent = false → holds statement = false)
    (statements : List Statement) :
    (statements.filter Statement.isContent).find? holds = statements.find? holds := by
  rw [List.find?_filter]
  congr 1
  funext statement
  cases content : statement.isContent with
  | true => simp
  | false => simp [only statement content]

private theorem families_begin : ∀ family ∈ families,
    family.1.head?.any (· != '/') = true ∧ family.2.head?.any (· != '/') = true := by
  unfold families
  repeat rw [String.toList_ofList]
  decide

theorem extraCloserAfter_of_not_isContent {earlier : List Statement} {statement : Statement}
    (empty : statement.isContent = false) : extraCloserAfter earlier statement = [] := by
  have unknown : families.lookup statement.text = none := by
    rw [List.lookup_eq_none_iff]
    intro family member
    rw [bne, (statement.isRemark_text empty).beq_eq_false (families_begin family member).1]
    rfl
  rw [extraCloserAfter, unknown]

theorem extraCloserAfter_filter (earlier : List Statement) {statement : Statement}
    (content : statement.isContent = true) :
    extraCloserAfter (earlier.filter Statement.isContent) statement =
      extraCloserAfter earlier statement := by
  unfold extraCloserAfter
  cases found : families.lookup statement.text with
  | none => rfl
  | some opening =>
    obtain ⟨before, later, split, -⟩ := List.lookup_eq_some_iff.mp found
    have begins := families_begin (statement.text, opening) (by simp [split])
    have opens : ∀ other : Statement, other.isContent = false → other.startsWith opening = false :=
      fun other empty => (other.isRemark_text empty).startsWith_eq_false begins.2
    have closes : ∀ other : Statement, other.isContent = false →
        (other.text == statement.text) = false :=
      fun other empty => (other.isRemark_text empty).beq_eq_false begins.1
    dsimp only
    rw [← List.filter_cons_of_pos content, countOpening, countClosing, countP_filter opens,
      countP_filter closes]
    rfl

theorem extraClosersAfter_filter (earlier statements : List Statement) :
    extraClosersAfter (earlier.filter Statement.isContent) (statements.filter Statement.isContent) =
      extraClosersAfter earlier statements := by
  induction statements generalizing earlier with
  | nil => rfl
  | cons statement rest ih =>
    have later := ih (statement :: earlier)
    cases content : statement.isContent with
    | true =>
      rw [List.filter_cons_of_pos content] at later
      rw [List.filter_cons_of_pos content, extraClosersAfter, extraClosersAfter, later,
        extraCloserAfter_filter earlier content]
    | false =>
      rw [List.filter_cons_of_neg (Bool.eq_false_iff.mp content)] at later
      rw [List.filter_cons_of_neg (Bool.eq_false_iff.mp content), extraClosersAfter,
        extraCloserAfter_of_not_isContent content, List.nil_append, later]

theorem endfors_filter (statements : List Statement) :
    endfors (statements.filter Statement.isContent) = endfors statements := by
  induction statements with
  | nil => rfl
  | cons statement rest ih =>
    have plain : ∀ other : Statement, other.isContent = false →
        other.startsWith "ENDFOR" = false :=
      fun other empty => (other.isRemark_text empty).startsWith_eq_false rfl
    have found := find?_filter plain rest
    cases content : statement.isContent with
    | true => rw [List.filter_cons_of_pos content, endfors_cons, endfors_cons, ih, found]
    | false =>
      have other : (statement.firstWord == "FOR") = false :=
        (statement.isRemark_firstWord content).beq_eq_false rfl
      rw [List.filter_cons_of_neg (Bool.eq_false_iff.mp content), endfors_cons, other, ih]
      rfl

theorem lengths_filter (table : SymbolTable) {statements : List Statement}
    (free : ∀ statement ∈ statements, '\n' ∉ statement.text) :
    lengths table (statements.filter Statement.isContent) = lengths table statements := by
  induction statements with
  | nil => rfl
  | cons statement rest ih =>
    have later := ih fun other member => free other (List.mem_cons_of_mem _ member)
    cases content : statement.isContent with
    | true =>
      rw [List.filter_cons_of_pos content, lengths, List.flatMap_cons, lengths, List.flatMap_cons]
      exact congrArg (_ ++ ·) later
    | false =>
      have code := statement.code_of_not_isContent content (free statement List.mem_cons_self)
      rw [List.filter_cons_of_neg (Bool.eq_false_iff.mp content), later, lengths, lengths,
        List.flatMap_cons, code]
      rfl

theorem emptyFors_filter (statements : List Statement) :
    emptyFors (statements.filter Statement.isContent) = emptyFors statements := by
  induction statements with
  | nil => rfl
  | cons statement rest ih =>
    have found : (rest.filter Statement.isContent).find? (·.isContent) =
        rest.find? (·.isContent) :=
      find?_filter (fun _ empty => empty) rest
    cases content : statement.isContent with
    | true => rw [List.filter_cons_of_pos content, emptyFors, emptyFors, ih, found]
    | false =>
      have header : isForHeader statement = false := by
        have start : statement.startsWith "FOR " = false :=
          (statement.isRemark_text content).startsWith_eq_false rfl
        rw [isForHeader, start, Bool.false_and]
      rw [List.filter_cons_of_neg (Bool.eq_false_iff.mp content), emptyFors, header, ih]
      rfl

/-- The sweeps find nothing on blank lines and comments, and find the same without them. -/
theorem all_filter (table : SymbolTable) {statements : List Statement}
    (free : ∀ statement ∈ statements, '\n' ∉ statement.text) :
    all table (statements.filter Statement.isContent) = all table statements := by
  have closers := extraClosersAfter_filter [] statements
  rw [List.filter_nil] at closers
  rw [all, all, extraClosers, extraClosers, closers, endfors_filter, lengths_filter table free,
    emptyFors_filter]

end Sweep

/-! ## The source without remarks -/

namespace Line

/-- A source without its blank lines and comments. -/
def condensed (source : Text) : Text :=
  Text.join ['\n'] ((contentOf source).map (·.raw))

/-- The number that a line of the condensed source has in the source. Numbers that no line has are
moved so that the map is increasing. -/
def originalNumber (source : Text) (number : Int) : Int :=
  if number ≤ 0 then number
  else
    match (contentOf source)[(number - 1).toNat]? with
    | some line => line.number
    | none => number + (ofSource source).length

theorem number_bounds {source : Text} {line : Line} (member : line ∈ ofSource source) :
    1 ≤ line.number ∧ line.number ≤ (ofSource source).length := by
  have upper := number_lt_of_mem_enumerate member
  rw [ofSource, length_enumerate]
  exact ⟨number_le_of_mem_enumerate member, by omega⟩

theorem originalNumber_of_getElem? {source : Text} {line : Line} {index : Nat}
    (found : (contentOf source)[index]? = some line) :
    originalNumber source (1 + index) = line.number := by
  have positive : ¬ (1 + (index : Int) ≤ 0) := by omega
  have position : (1 + (index : Int) - 1).toNat = index := by omega
  rw [originalNumber, if_neg positive, position, found]

theorem originalNumber_of_none {source : Text} {index : Nat}
    (missing : (contentOf source)[index]? = none) :
    originalNumber source (1 + index) = 1 + index + (ofSource source).length := by
  have positive : ¬ (1 + (index : Int) ≤ 0) := by omega
  have position : (1 + (index : Int) - 1).toNat = index := by omega
  rw [originalNumber, if_neg positive, position, missing]

/-- Line numbers are positive, also those of the lines that a source does not have. -/
theorem originalNumber_pos (source : Text) (index : Nat) :
    0 < originalNumber source (1 + index) := by
  cases found : (contentOf source)[index]? with
  | some line =>
    have bounds := number_bounds (mem_contentOf.mp (List.mem_of_getElem? found)).1
    rw [originalNumber_of_getElem? found]
    omega
  | none =>
    rw [originalNumber_of_none found]
    omega

theorem originalNumber_lt {source : Text} {first second : Nat} (before : first < second) :
    originalNumber source (1 + first) < originalNumber source (1 + second) := by
  cases firstFound : (contentOf source)[first]? with
  | none =>
    have missing : (contentOf source)[second]? = none :=
      List.getElem?_eq_none_iff.mpr (Nat.le_trans (List.getElem?_eq_none_iff.mp firstFound)
        (Nat.le_of_lt before))
    rw [originalNumber_of_none firstFound, originalNumber_of_none missing]
    omega
  | some line =>
    rw [originalNumber_of_getElem? firstFound]
    cases secondFound : (contentOf source)[second]? with
    | none =>
      have bounds := number_bounds (mem_contentOf.mp (List.mem_of_getElem? firstFound)).1
      rw [originalNumber_of_none secondFound]
      omega
    | some later =>
      rw [originalNumber_of_getElem? secondFound]
      obtain ⟨firstWithin, rfl⟩ := List.getElem?_eq_some_iff.mp firstFound
      obtain ⟨secondWithin, rfl⟩ := List.getElem?_eq_some_iff.mp secondFound
      exact List.pairwise_iff_getElem.mp (pairwise_contentOf source) first second firstWithin
        secondWithin before

theorem originalNumber_increasing (source : Text) (a b : Int) (before : a < b) :
    originalNumber source a < originalNumber source b := by
  by_cases early : b ≤ 0
  · have earlier : a ≤ 0 := by omega
    rw [originalNumber, originalNumber, if_pos earlier, if_pos early]
    exact before
  · obtain ⟨second, rfl⟩ : ∃ second : Nat, b = 1 + second := ⟨(b - 1).toNat, by omega⟩
    by_cases start : a ≤ 0
    · have positive := originalNumber_pos source second
      rw [originalNumber, if_pos start]
      omega
    · obtain ⟨first, rfl⟩ : ∃ first : Nat, a = 1 + first := ⟨(a - 1).toNat, by omega⟩
      exact originalNumber_lt (by omega)

theorem originalNumber_injective (source : Text) (a b : Int)
    (same : originalNumber source a = originalNumber source b) : a = b := by
  by_cases equal : a = b
  · exact equal
  · rcases Int.lt_or_gt_of_ne equal with less | greater
    · have increasing := originalNumber_increasing source a b less
      omega
    · have increasing := originalNumber_increasing source b a greater
      omega

/-- Lines that are numbered anew and then given their old numbers are the old lines. -/
theorem map_renumber_enumerate {move : Int → Int} (lines : List Line) (number : Int)
    (old : ∀ index line, lines[index]? = some line → move (number + (index : Nat)) = line.number) :
    (enumerate number (lines.map (·.raw))).map (renumber move) = lines := by
  induction lines generalizing number with
  | nil => rfl
  | cons line rest ih =>
    have here : move number = line.number := by simpa using old 0 line rfl
    have later : ∀ index other, rest[index]? = some other →
        move (number + 1 + (index : Nat)) = other.number := by
      intro index other found
      have moved := old (index + 1) other found
      rw [← moved]
      congr 1
      omega
    rw [List.map_cons, enumerate, List.map_cons, ih (number + 1) later, renumber, here]

theorem ofSource_condensed {source : Text} (content : anyContent (ofSource source) = true) :
    ofSource (condensed source) = enumerate 1 ((contentOf source).map (·.raw)) := by
  apply ofSource_join
  · obtain ⟨line, member, present⟩ := List.any_eq_true.mp content
    exact List.ne_nil_of_mem (List.mem_map_of_mem (mem_contentOf.mpr ⟨member, present⟩))
  · intro raw member
    obtain ⟨line, present, rfl⟩ := List.mem_map.mp member
    exact Text.not_mem_of_mem_splitOn (raw_mem_of_mem_enumerate (mem_contentOf.mp present).1)

/-- The lines of the condensed source are the lines with content, numbered anew. -/
theorem map_renumber_ofSource_condensed {source : Text}
    (content : anyContent (ofSource source) = true) :
    (ofSource (condensed source)).map (renumber (originalNumber source)) = contentOf source := by
  rw [ofSource_condensed content]
  exact map_renumber_enumerate _ 1 fun index line found => originalNumber_of_getElem? found

theorem contentOf_condensed {source : Text} (content : anyContent (ofSource source) = true) :
    contentOf (condensed source) = ofSource (condensed source) := by
  rw [contentOf, List.filter_eq_self]
  intro line member
  have present : line.renumber (originalNumber source) ∈ contentOf source := by
    rw [← map_renumber_ofSource_condensed content]
    exact List.mem_map_of_mem member
  exact (mem_contentOf.mp present).2

/-- A statement holds no line feed. -/
theorem newline_not_mem_text {source : Text} :
    ∀ other ∈ (ofSource source).map statement, '\n' ∉ other.text := by
  refine List.forall_mem_map.mpr ?_
  intro line member found
  exact Text.not_mem_of_mem_splitOn (raw_mem_of_mem_enumerate member) (Text.mem_of_mem_trim found)

end Line

namespace Check

/-- What is emitted is decided by the lines with content. -/
theorem emitted_outcome_eq_emittedOn {config : Config} {source : Text}
    (content : Line.anyContent (Line.ofSource source) = true) :
    (outcome config source).emitted = emittedOn config (Line.contentOf source) := by
  rw [emitted_outcome content, emittedOn, Line.map_statement_contentOf,
    Sweep.all_filter _ Line.newline_not_mem_text]

theorem anyContent_condensed {source : Text}
    (content : Line.anyContent (Line.ofSource source) = true) :
    Line.anyContent (Line.ofSource (Line.condensed source)) = true := by
  obtain ⟨line, member, present⟩ := List.any_eq_true.mp content
  have listed : line ∈ Line.contentOf source := Line.mem_contentOf.mpr ⟨member, present⟩
  rw [← Line.map_renumber_ofSource_condensed content] at listed
  obtain ⟨origin, found, -⟩ := List.mem_map.mp listed
  rw [← Line.contentOf_condensed content] at found
  exact Line.anyContent_of_mem found

/-- Blank lines and comments are inert: without them a check fails on the same sources, and
otherwise answers the same symbols and findings in the same order, with each line that is named or
quoted moved from its new number to the old one. -/
theorem remarks_inert (config : Config) {source : Text}
    (content : Line.anyContent (Line.ofSource source) = true) :
    (∀ a b, a < b → Line.originalNumber source a < Line.originalNumber source b) ∧
    (Line.ofSource (Line.condensed source)).map (Line.renumber (Line.originalNumber source)) =
      Line.contentOf source ∧
    ((∃ fault, run config source = .error fault) ↔
      ∃ fault, run config (Line.condensed source) = .error fault) ∧
    ∀ check bare, run config source = .ok check →
      run config (Line.condensed source) = .ok bare →
      check.symbols = bare.symbols.map (Listing.renumber (Line.originalNumber source)) ∧
      ∃ kept : List (Int × Finding), (∀ report ∈ kept, report.2.WellQuoted) ∧
        bare.diagnostics = kept.map worded ∧
        check.diagnostics =
          kept.map fun report => worded (renumberReport (Line.originalNumber source) report) := by
  have condensed := Line.map_renumber_ofSource_condensed content
  have lines := Line.contentOf_condensed content
  refine ⟨Line.originalNumber_increasing source, condensed, ?_, ?_⟩
  · rw [run_error_iff, run_error_iff, lines, ← condensed]
    constructor
    · rintro ⟨line, member, stops⟩
      obtain ⟨origin, present, rfl⟩ := List.mem_map.mp member
      exact ⟨origin, present, stops⟩
    · rintro ⟨line, member, stops⟩
      exact ⟨_, List.mem_map_of_mem member, stops⟩
  · intro check bare ran ranBare
    obtain ⟨rfl, -⟩ := run_eq_ok ran
    obtain ⟨rfl, -⟩ := run_eq_ok ranBare
    have bareContent := anyContent_condensed content
    refine ⟨?_, ?_⟩
    · have state : after (Line.contentOf source) {} =
          (after (Line.contentOf (Line.condensed source)) {}).renumber
            (Line.originalNumber source) := by
        rw [lines, ← after_renumber, condensed]
        rfl
      rw [symbols_outcome content, symbols_outcome bareContent, state]
      exact SymbolTable.listing_renumber ..
    · obtain ⟨kept, quoted, before, behind⟩ := exists_kept_emittedOn
        (Line.originalNumber_injective source) config (Line.ofSource (Line.condensed source))
      refine ⟨kept, quoted, ?_, ?_⟩
      · rw [diagnostics, emitted_outcome_eq_emittedOn bareContent, lines, before]
      · rw [diagnostics, emitted_outcome_eq_emittedOn content, ← condensed, behind]

/-- Behind a comment with an open quote and around a blank line, a repeated declaration quotes the
line of the first one as it is in the source, and without them as it is then. -/
theorem redeclaration_quotes_original_line :
    Line.condensed "// \"it's\nDECLARE x : DATE\n\nDECLARE x : DATE" =
      "DECLARE x : DATE\nDECLARE x : DATE" ∧
    ∃ check bare, run {} "// \"it's\nDECLARE x : DATE\n\nDECLARE x : DATE" = .ok check ∧
      run {} "DECLARE x : DATE\nDECLARE x : DATE" = .ok bare ∧
      check.diagnostics = [(Finding.redeclared "x" 2).on 4] ∧
      bare.diagnostics = [(Finding.redeclared "x" 1).on 2] ∧
      ∃ kept : List (Int × Finding), bare.diagnostics = kept.map worded ∧
        check.diagnostics = kept.map fun report => worded (renumberReport (Line.originalNumber
          "// \"it's\nDECLARE x : DATE\n\nDECLARE x : DATE") report) := by
  have facts : Line.condensed "// \"it's\nDECLARE x : DATE\n\nDECLARE x : DATE" =
        "DECLARE x : DATE\nDECLARE x : DATE" ∧
      Line.anyContent (Line.ofSource "// \"it's\nDECLARE x : DATE\n\nDECLARE x : DATE") = true ∧
      (run {} "// \"it's\nDECLARE x : DATE\n\nDECLARE x : DATE").isOk = true ∧
      (run {} "DECLARE x : DATE\nDECLARE x : DATE").isOk = true ∧
      (outcome {} "// \"it's\nDECLARE x : DATE\n\nDECLARE x : DATE").diagnostics =
        [(Finding.redeclared "x" 2).on 4] ∧
      (outcome {} "DECLARE x : DATE\nDECLARE x : DATE").diagnostics =
        [(Finding.redeclared "x" 1).on 2] := by decide +kernel
  obtain ⟨condensed, content, returns, returnsBare, quoted, bareQuoted⟩ := facts
  have ran := run_of_isOk _ _ returns
  have ranBare := run_of_isOk _ _ returnsBare
  rw [← condensed] at ranBare
  obtain ⟨-, kept, -, before, behind⟩ := (remarks_inert {} content).2.2.2 _ _ ran ranBare
  rw [condensed] at ranBare before
  exact ⟨condensed, _, _, ran, ranBare, quoted, bareQuoted, kept, before, behind⟩

end Check

end PseudoLint
