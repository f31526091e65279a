import PseudoLint.Proofs.Check.Agreement
import PseudoLint.Proofs.Check.Layout
import PseudoLint.Proofs.Line.Comment

/-! # What a comment behind a statement decides

Most rules read the code of a line, and no comment changes that. The others read the text of the
whole line: they count its double quotes, look for the assignment sign, for a reserved word or for a
form anywhere in it, or compare it with a word. `Unseen` says for each code what keeps a comment out
of the findings with that code, and `trailing_comment_scope` that it then does.
-/

namespace PseudoLint

/-- What keeps a comment out of the findings with the selected codes: conditions on the statement in
front of it and on its remark. -/
structure Unseen (selected : Text → Bool) (code remark : Text) : Prop where
  strings : selected "E041" = true ∨ selected "E045" = true → remark.count '"' % 2 = 0
  literals : selected "E044" = true → '"' ∈ remark →
    code.trim.startsWith "DECLARE" = false ∧ assignArrow ∉ remark
  arrow : selected "E010" = true ∨ selected "E032" = true ∨ selected "E033" = true →
    assignArrow ∈ remark → assignArrow ∈ code
  /-- The statement is recognised apart from the slashes, or neither it nor the remark is. -/
  recognized : selected "E012" = true →
    Rule.isRecognized (Line.statement ⟨0, code ++ ['/', '/']⟩) = true ∨
      Rule.isRecognized (Line.statement ⟨0, code⟩) = false ∧
        Rule.isRecognized (Line.statement ⟨0, '/' :: '/' :: remark⟩) = false
  /-- A first word in capitals does not run into the slashes. -/
  spaced : selected "E013" = true ∨ selected "E020" = true ∨ selected "E032" = true ∨
      selected "E033" = true ∨ selected "W050" = true →
    isAllCapitals (Line.statement ⟨0, code⟩).firstWord = true →
      ∃ c ∈ code.trimStart, isBlank c = true
  /-- The statement is no word that the sweep for extra closing words counts only if it stands
  alone, or only if something follows it. -/
  alone : selected "E020" = true → ∀ family ∈ Sweep.families,
    code.trim ≠ family.1 ∧ code.trim ++ [' '] ≠ family.2
  call : selected "E042" = true → Text.startsWith (code.trim ++ [' ']) "CALL " = true →
    (Form.callName code.trim).isSome = true
  file : selected "E043" = true → code.trim.startsWith "OPENFILE" = true →
    (Form.fileMode code.trim).isSome = true
  loop : selected "W050" = true → Text.startsWith (code.trim ++ [' ']) "FOR " = true →
    code.trim.hasInfix " TO " = true

/-- The codes of findings that are read off the code of a line, its indentation and the symbol
table. -/
def codeOnly : List Text :=
  ["W001", "E011", "E014", "E015", "E030", "E031", "W031", "E040", "E046"]

/-- No comment is seen by the rules that read the code of a line only. -/
theorem unseen_codeOnly (code remark : Text) : Unseen codeOnly.contains code remark where
  strings chosen := absurd chosen (by decide)
  literals chosen := absurd chosen (by decide)
  arrow chosen := absurd chosen (by decide)
  recognized chosen := absurd chosen (by decide)
  spaced chosen := absurd chosen (by decide)
  alone chosen := absurd chosen (by decide)
  call chosen := absurd chosen (by decide)
  file chosen := absurd chosen (by decide)
  loop chosen := absurd chosen (by decide)

namespace CommentBehind

variable {bare gap remark : Text}

private theorem spaced_or_glued (text : Text) :
    (∃ c ∈ text, isBlank c = true) ∨ ∀ c ∈ text, isBlank c = false := by
  by_cases blank : ∃ c ∈ text, isBlank c = true
  · exact .inl blank
  · exact .inr (by simpa only [not_exists, not_and, Bool.not_eq_true] using blank)

/-- First words are equal or not in capitals unless one in capitals runs into the slashes. -/
theorem firstWord_alike (behind : CommentBehind bare gap remark) (line : Int)
    (spaced : isAllCapitals (Statement.mk line bare).firstWord = true →
      ∃ c ∈ bare ++ gap, isBlank c = true) :
    (Statement.mk line (withComment bare gap remark)).firstWord =
        (Statement.mk line bare).firstWord ∨
      isAllCapitals (Statement.mk line (withComment bare gap remark)).firstWord = false ∧
        isAllCapitals (Statement.mk line bare).firstWord = false := by
  rcases spaced_or_glued (bare ++ gap) with blank | glued
  · exact .inl (behind.firstWord_of_spaced blank line)
  · refine .inr ⟨(behind.firstWord_of_glued glued line).1, Bool.eq_false_iff.mpr fun capitals => ?_⟩
    obtain ⟨c, member, blank⟩ := spaced capitals
    rw [glued c member] at blank
    cases blank

theorem unknownWordFindings_eq (behind : CommentBehind bare gap remark) (line : Int)
    (spaced : isAllCapitals (Statement.mk line bare).firstWord = true →
      ∃ c ∈ bare ++ gap, isBlank c = true) (table : SymbolTable) :
    Rule.unknownWordFindings ⟨line, withComment bare gap remark⟩ table =
      Rule.unknownWordFindings ⟨line, bare⟩ table := by
  rcases behind.firstWord_alike line spaced with same | ⟨commented, plain⟩
  · have within : (Statement.mk line bare).firstWord.length ≤ bare.length := by
      rw [Statement.firstWord, Statement.words, Text.headD_words behind.solid.begins]
      exact (List.takeWhile_prefix _).length_le
    simp only [Rule.unknownWordFindings, Rule.isUnknownWord, same,
      behind.follows_append _ within]
  · simp only [Rule.unknownWordFindings, commented, plain, Bool.false_eq_true, ↓reduceIte]

/-- A header whose first word runs into the slashes declares nothing, and neither does the word
alone. -/
theorem subprogramTable_eq (behind : CommentBehind bare gap remark) (line : Int)
    (table : SymbolTable) :
    Rule.subprogramTable ⟨line, withComment bare gap remark⟩ table =
      Rule.subprogramTable ⟨line, bare⟩ table := by
  have codes : (Statement.mk line (withComment bare gap remark)).code =
      (Statement.mk line bare).code := by
    rw [Statement.code, Statement.code, behind.codeOf_withComment, behind.codeOf_bare]
  rcases spaced_or_glued (bare ++ gap) with blank | glued
  · have same := behind.firstWord_of_spaced blank line
    simp only [Rule.subprogramTable, Rule.declaredFunction?, Rule.parameters, Rule.returnType?,
      same, codes]
  · obtain ⟨commented, plain⟩ := behind.firstWord_of_glued glued line
    have other : ∀ word : Text, isAllCapitals word = true →
        ((Statement.mk line (withComment bare gap remark)).firstWord == word) = false := by
      intro word capitals
      refine beq_false_of_ne fun same => ?_
      rw [same, capitals] at commented
      cases commented
    have alone : Rule.subprogramTable ⟨line, "FUNCTION"⟩ table = table ∧
        Rule.subprogramTable ⟨line, "PROCEDURE"⟩ table = table := ⟨rfl, rfl⟩
    have kept : Rule.subprogramTable ⟨line, withComment bare gap remark⟩ table = table := by
      simp only [Rule.subprogramTable, other "FUNCTION" (by decide), other "PROCEDURE" (by decide),
        Bool.false_eq_true, ↓reduceIte]
    rw [kept]
    by_cases function : bare = "FUNCTION"
    · rw [function, alone.1]
    by_cases procedure : bare = "PROCEDURE"
    · rw [procedure, alone.2]
    simp only [Rule.subprogramTable, plain, beq_false_of_ne function, beq_false_of_ne procedure,
      Bool.false_eq_true, ↓reduceIte]

theorem startsWith_head (behind : CommentBehind bare gap remark) (line : Int) :
    ∀ word ∈ heads, (Statement.mk line (withComment bare gap remark)).startsWith word =
      (Statement.mk line bare).startsWith word := by
  have plain : ∀ word ∈ heads, '/' ∉ word ∧ word.getLast?.any isBlank = false := by decide
  intro word listed
  exact behind.toSlash.startsWith_append (plain word listed).1 (plain word listed).2 bare

/-- A word with a blank behind it begins both lines or none, unless it is the whole statement. -/
theorem startsWith_spaced (behind : CommentBehind bare gap remark) {word : Text}
    (free : '/' ∉ word) (ends : word.getLast?.any isBlank = false) (other : bare ≠ word) :
    (withComment bare gap remark).startsWith (word ++ [' ']) = bare.startsWith (word ++ [' ']) :=
  behind.toSlash.startsWith_append_spaced free ends other

theorem startsWith_families (behind : CommentBehind bare gap remark)
    (alone : ∀ family ∈ Sweep.families, bare ≠ family.1 ∧ bare ++ [' '] ≠ family.2) :
    ∀ family ∈ Sweep.families,
      (withComment bare gap remark).startsWith family.2 = bare.startsWith family.2 ∧
        (withComment bare gap remark == family.1) = (bare == family.1) := by
  have shape : ∀ family ∈ Sweep.families, '/' ∉ family.1 ∧ '/' ∉ family.2.dropLast ∧
      family.2.dropLast.getLast?.any isBlank = false ∧
        family.2 = family.2.dropLast ++ [' '] := by decide
  intro family listed
  obtain ⟨closer, opening, ends, spaced⟩ := shape family listed
  obtain ⟨noCloser, noOpening⟩ := alone family listed
  constructor
  · rw [spaced]
    exact behind.startsWith_spaced opening ends fun same => noOpening (by rw [same, ← spaced])
  · have slashed : withComment bare gap remark ≠ family.1 := by
      intro same
      rw [← same] at closer
      exact closer (by simp [withComment])
    rw [beq_false_of_ne slashed, beq_false_of_ne noCloser]

theorem callFindings_eq (behind : CommentBehind bare gap remark) (line : Int)
    (fits : Text.startsWith (bare ++ [' ']) "CALL " = true → (Form.callName bare).isSome = true)
    (table : SymbolTable) :
    Rule.callFindings ⟨line, withComment bare gap remark⟩ table =
      Rule.callFindings ⟨line, bare⟩ table := by
  have other : bare ≠ "CALL" := by
    rintro rfl
    exact absurd (fits rfl) (by decide)
  have starts : (withComment bare gap remark).startsWith "CALL " = bare.startsWith "CALL " :=
    behind.startsWith_spaced (by decide) (by decide) other
  cases called : bare.startsWith "CALL " with
  | false =>
    simp only [Rule.callFindings, Statement.startsWith, starts, called, Bool.false_eq_true,
      ↓reduceIte]
  | true =>
    have longer := Text.startsWith_append_of_startsWith called [' ']
    have found : Form.callName.first? (withComment bare gap remark) =
        Form.callName.first? bare :=
      Form.first?_append behind.solid.ne_nil (fits longer) behind.toSlash Form.callName_append
    simp only [Rule.callFindings, Statement.startsWith, starts, called, found]

theorem fileFindings_eq (behind : CommentBehind bare gap remark) (line : Int)
    (fits : bare.startsWith "OPENFILE" = true → (Form.fileMode bare).isSome = true)
    (config : Config) :
    Rule.fileFindings config ⟨line, withComment bare gap remark⟩ =
      Rule.fileFindings config ⟨line, bare⟩ := by
  have starts := behind.startsWith_head line "OPENFILE" (by simp [heads])
  cases opens : (Statement.mk line bare).startsWith "OPENFILE" with
  | false => simp only [Rule.fileFindings, starts, opens, Bool.false_eq_true, ↓reduceIte]
  | true =>
    obtain ⟨⟨mode, rest⟩, found⟩ := Option.isSome_iff_exists.mp (fits opens)
    have plain : Form.fileMode.first? bare = some mode :=
      Form.first?_of_fits behind.solid.ne_nil found
    have commented : Form.fileMode.first? (withComment bare gap remark) = some mode := by
      rw [← plain]
      exact Form.first?_append behind.solid.ne_nil (fits opens) behind.toSlash Form.fileMode_append
    simp only [Rule.fileFindings, Rule.openFileFindings, starts, opens, ↓reduceIte, plain,
      commented]

theorem isForHeader_eq (behind : CommentBehind bare gap remark) (line : Int)
    (header : Text.startsWith (bare ++ [' ']) "FOR " = true → bare.hasInfix " TO " = true) :
    Sweep.isForHeader ⟨line, withComment bare gap remark⟩ = Sweep.isForHeader ⟨line, bare⟩ := by
  have other : bare ≠ "FOR" := by
    rintro rfl
    exact absurd (header rfl) (by decide)
  have starts : (withComment bare gap remark).startsWith "FOR " = bare.startsWith "FOR " :=
    behind.startsWith_spaced (by decide) (by decide) other
  cases opens : bare.startsWith "FOR " with
  | false =>
    simp only [Sweep.isForHeader, Statement.startsWith, starts, opens, Bool.false_and]
  | true =>
    have inside := header (Text.startsWith_append_of_startsWith opens [' '])
    have commented : (withComment bare gap remark).hasInfix " TO " = true := by
      rw [Text.hasInfix_iff] at inside ⊢
      exact inside.trans (List.prefix_append bare _).isInfix
    simp only [Sweep.isForHeader, Statement.startsWith, starts, opens, inside, commented]

theorem stringAssignment_eq (behind : CommentBehind bare gap remark)
    (unassigned : '"' ∈ remark → assignArrow ∉ remark) :
    Form.stringAssignment.first? (withComment bare gap remark) =
      Form.stringAssignment.first? bare := by
  obtain ⟨quotes, -, -⟩ := behind.free_bare
  rw [Form.stringAssignment_needs_quote.first?_eq_none quotes]
  by_cases quoted : '"' ∈ remark
  · refine Form.first?_stringAssignment_append quotes ?_ behind.toSlash
    intro member
    have blanks : assignArrow ∉ gap := fun present =>
      absurd (behind.blank _ present) (by decide)
    simp only [List.mem_append, blanks, List.mem_cons, false_or] at member
    rcases member with slash | slash | inRemark
    · cases slash
    · cases slash
    · exact unassigned quoted inRemark
  · apply Form.stringAssignment_needs_quote.first?_eq_none
    rw [mem_withComment (by decide) (by decide) behind]
    exact fun member => member.elim quotes quoted

end CommentBehind

/-- A line with a comment agrees with the line without it for the codes that the comment is kept out
of. -/
theorem agree_of_unseen {selected : Text → Bool} {code remark gap : Text}
    (behind : CommentBehind code.trim gap remark.trimEnd)
    (split : code.trimStart = code.trim ++ gap)
    (trimmed : ∀ said : Text,
      (code ++ '/' :: '/' :: said).trim = withComment code.trim gap said.trimEnd)
    (constant : code.trim.startsWith "CONSTANT" = true →
      (Form.constantName code.trim).isSome = true)
    (unseen : Unseen selected code remark) (line : Int) :
    Agree selected ⟨line, withComment code.trim gap remark.trimEnd⟩ ⟨line, code.trim⟩ where
  line := rfl
  content := by rw [(behind.isContent_eq line).1, (behind.isContent_eq line).2]
  code := by rw [Statement.code, Statement.code, behind.codeOf_withComment, behind.codeOf_bare]
  starts := behind.startsWith_head line
  target := Form.assignedName_append behind.solid.ne_nil behind.toSlash
  charLiterals := by rw [behind.charLiterals_eq_nil.1, behind.charLiterals_eq_nil.2]
  constantName declares := by
    rw [behind.startsWith_head line "CONSTANT" (by simp [heads])] at declares
    exact Form.first?_append behind.solid.ne_nil (constant declares) behind.toSlash
      Form.constantName_append
  equals declares := by
    rw [behind.startsWith_head line "CONSTANT" (by simp [heads])] at declares
    obtain ⟨found, fits⟩ := Option.isSome_iff_exists.mp (constant declares)
    have bare : '=' ∈ code.trim := Form.constantName_needs _ _ fits
    have commented := (behind.mem_withComment (by decide) (by decide)).mpr (.inl bare)
    simp only [List.contains_iff_mem.mpr bare, List.contains_iff_mem.mpr commented]
  subprogram := behind.subprogramTable_eq line
  strings chosen := by
    have even := unseen.strings chosen
    obtain ⟨quotes, -, -⟩ := behind.free_bare
    simp only [Statement.hasUnclosedString, behind.count_quote_withComment,
      Text.count_trimEnd (show isBlank '"' = false by decide), even, List.count_eq_zero.mpr quotes]
  assignedString chosen := behind.stringAssignment_eq fun quoted => by
    rw [Text.mem_trimEnd (by decide)] at quoted ⊢
    exact (unseen.literals chosen quoted).2
  charDeclaration chosen declares := by
    rw [behind.startsWith_head line "DECLARE" (by simp [heads])] at declares
    have plain : code.trim.startsWith "DECLARE" = true := declares
    have absent : '"' ∉ remark.trimEnd := fun quoted => by
      rw [Text.mem_trimEnd (by decide)] at quoted
      rw [(unseen.literals chosen quoted).1] at plain
      cases plain
    obtain ⟨quotes, -, -⟩ := behind.free_bare
    have commented : '"' ∉ withComment code.trim gap remark.trimEnd := by
      rw [behind.mem_withComment (by decide) (by decide)]
      exact fun member => member.elim quotes absent
    simp only [List.contains_eq_mem, quotes, commented, decide_false, Bool.and_false]
  arrow chosen := by
    have solid : isBlank assignArrow = false := by decide
    have brought : assignArrow ∈ remark.trimEnd → assignArrow ∈ code.trim := by
      rw [Text.mem_trimEnd solid, Text.mem_trim solid]
      exact unseen.arrow chosen
    rw [Bool.eq_iff_iff, Statement.hasArrow, Statement.hasArrow, List.contains_iff_mem,
      List.contains_iff_mem, behind.mem_withComment (by decide) (by decide)]
    exact ⟨fun member => member.elim id brought, .inl⟩
  recognized chosen := by
    have slashes : (Line.mk 0 (code ++ ['/', '/'])).statement =
        ⟨0, withComment code.trim gap []⟩ := by
      rw [Line.statement, trimmed []]
      rfl
    have remarked : (Line.mk 0 ('/' :: '/' :: remark)).statement =
        ⟨0, '/' :: '/' :: remark.trimEnd⟩ := by
      rw [Line.statement, Text.trim, Text.trimStart_of_solid rfl (by decide)]
      exact congrArg (Statement.mk 0) (Text.trimEnd_append_cons (by decide) ['/'] remark)
    have conditions := unseen.recognized chosen
    rw [slashes, remarked] at conditions
    exact behind.isRecognized_eq line conditions
  unknownWord chosen := behind.unknownWordFindings_eq line (split ▸ unseen.spaced (.inl chosen))
  firstWord chosen word capitals := by
    have spaced := unseen.spaced (.inr chosen)
    rw [split] at spaced
    rcases behind.firstWord_alike line spaced with same | ⟨commented, plain⟩
    · rw [same]
    · have other : ∀ {first : Text}, isAllCapitals first = false → (first == word) = false := by
        intro first lower
        refine beq_false_of_ne fun same => ?_
        rw [same, capitals] at lower
        cases lower
      rw [other commented, other plain]
  families chosen := behind.startsWith_families (unseen.alone chosen)
  call chosen := behind.callFindings_eq line (unseen.call chosen)
  file chosen := behind.fileFindings_eq line (unseen.file chosen)
  forHeader chosen := behind.isForHeader_eq line (unseen.loop chosen)

namespace Check

/-- The lines of two sources that differ in the comment of one line, in pairs. -/
theorem exists_pairs_of_comment {source bare : Text} {earlier later : List Text}
    {code remark : Text}
    (commented : source.lines = earlier ++ (code ++ '/' :: '/' :: remark) :: later)
    (stripped : bare.lines = earlier ++ code :: later) (nonblank : code.trim ≠ [])
    (precedes : PrecedesComment code) :
    ∃ pairs : List (Line × Line), Line.ofSource source = pairs.map (·.1) ∧
      Line.ofSource bare = pairs.map (·.2) ∧
      (∀ pair ∈ pairs, pair.1.isContent = pair.2.isContent) ∧
      (∀ config, ∀ pair ∈ pairs, pair.1.Overlong config ↔ pair.2.Overlong config) ∧
      ∀ selected, Unseen selected code remark →
        (code.trim.startsWith "CONSTANT" = true → (Form.constantName code.trim).isSome = true) →
          ∀ pair ∈ pairs, LinesAgree selected pair.1 pair.2 := by
  have ended : '\n' ∉ remark := by
    have listed : code ++ '/' :: '/' :: remark ∈ source.lines := by simp [commented]
    exact fun member => Text.not_mem_of_mem_splitOn listed (by simp [member])
  obtain ⟨gap, behind, split, trimmed⟩ := exists_commentBehind nonblank precedes ended
  let number : Int := 1 + earlier.length
  let same := fun line : Line => (line, line)
  let changed : Line × Line := (⟨number, code ++ '/' :: '/' :: remark⟩, ⟨number, code⟩)
  have texts : changed.1.statement = ⟨number, withComment code.trim gap remark.trimEnd⟩ :=
    congrArg (Statement.mk number) (trimmed remark)
  have indents : changed.1.indent = changed.2.indent := by
    rw [Line.indent_eq, Line.indent_eq]
    exact congrArg List.length (Text.takeWhile_isBlank_append nonblank _)
  -- Only the changed pair has to be looked at, since the other lines are the same in both sources.
  have only : ∀ {P : Line × Line → Prop}, (∀ line, P (line, line)) → P changed →
      ∀ pair ∈ (Line.enumerate 1 earlier).map same ++
        changed :: (Line.enumerate (number + 1) later).map same, P pair := by
    intro P shared here
    exact List.forall_mem_append.mpr ⟨List.forall_mem_map.mpr fun line _ => shared line,
      List.forall_mem_cons.mpr ⟨here, List.forall_mem_map.mpr fun line _ => shared line⟩⟩
  refine ⟨_, ?_, ?_, only (fun _ => rfl) ?_,
    fun config => only (fun _ => Iff.rfl) ?_, ?_⟩
  · rw [Line.ofSource, commented, Line.enumerate_append, Line.enumerate]
    simp [same, changed, number, Function.comp_def]
  · rw [Line.ofSource, stripped, Line.enumerate_append, Line.enumerate]
    simp [same, changed, number, Function.comp_def]
  · rw [Line.isContent, Line.isContent, texts, (behind.isContent_eq number).1]
    exact (behind.isContent_eq number).2.symm
  · have codes : changed.1.statement.code = changed.2.statement.code := by
      rw [texts, Statement.code, behind.codeOf_withComment]
      exact behind.codeOf_bare.symm
    have declares : changed.1.statement.startsWith "DECLARE" =
        changed.2.statement.startsWith "DECLARE" := by
      rw [texts]
      exact behind.startsWith_head number "DECLARE" (by simp [heads])
    simp only [Line.Overlong, Line.HasOverlongUnit, Statement.Overlong, Statement.HasOverlongBound,
      Statement.HasOverlongIndex, indents, codes, declares]
  · intro selected unseen constant
    refine only (.refl selected) ⟨indents, ?_⟩
    rw [texts]
    exact agree_of_unseen behind split trimmed constant unseen number

/-- A comment behind a statement that has no quotes and no slashes before it makes no check fail. It
registers nothing, unless the statement begins like a constant declaration and is none, and then it
is not seen in findings on indentation, names, the case of words, foreign words, variables that
cannot be declared, indices and lengths, whatever it says. Of the findings with any other codes it
is kept out under the conditions that `Unseen` gives for these codes, and of all of them at once
under all conditions. -/
theorem trailing_comment_scope (config : Config) {source bare : Text} {earlier later : List Text}
    {code remark : Text}
    (commented : source.lines = earlier ++ (code ++ '/' :: '/' :: remark) :: later)
    (stripped : bare.lines = earlier ++ code :: later) (nonblank : code.trim ≠ [])
    (precedes : PrecedesComment code) :
    ((∃ fault, run config source = .error fault) ↔ ∃ fault, run config bare = .error fault) ∧
    ((code.trim.startsWith "CONSTANT" = true → (Form.constantName code.trim).isSome = true) →
      ∀ first second, run config source = .ok first → run config bare = .ok second →
        first.symbols = second.symbols ∧
        first.diagnostics.filter (codeOnly.contains ·.code) =
          second.diagnostics.filter (codeOnly.contains ·.code) ∧
        ∀ selected, Unseen selected code remark →
          first.diagnostics.filter (selected ·.code) =
            second.diagnostics.filter (selected ·.code)) := by
  obtain ⟨pairs, sourceLines, bareLines, content, long, agree⟩ :=
    exists_pairs_of_comment commented stripped nonblank precedes
  refine ⟨run_error_of_pairs config sourceLines bareLines content (long config), ?_⟩
  intro constant first second ranFirst ranSecond
  obtain ⟨rfl, -⟩ := run_eq_ok ranFirst
  obtain ⟨rfl, -⟩ := run_eq_ok ranSecond
  have kept : ∀ selected, Unseen selected code remark →
      (outcome config source).diagnostics.filter (selected ·.code) =
        (outcome config bare).diagnostics.filter (selected ·.code) :=
    fun selected unseen =>
      filter_diagnostics_of_agree config sourceLines bareLines (agree selected unseen constant)
  have unseen := unseen_codeOnly code remark
  exact ⟨symbols_of_agree config sourceLines bareLines (agree _ unseen constant), kept _ unseen,
    kept⟩

/-- A plain remark behind a statement leaves all diagnostics as they are, the undeclared name among
them. -/
theorem plain_remark_unseen :
    ∃ first second, run {} "OUTPUT y // the width" = .ok first ∧ run {} "OUTPUT y " = .ok second ∧
      first.symbols = second.symbols ∧ first.diagnostics = second.diagnostics ∧
      first.diagnostics ≠ [] := by
  have precedes : PrecedesComment "OUTPUT y " := ⟨by decide, by decide, by decide⟩
  have unseen : Unseen (fun _ => true) "OUTPUT y " " the width" :=
    { strings := fun _ => by decide
      literals := fun _ quoted => absurd quoted (by decide)
      arrow := fun _ member => absurd member (by decide)
      recognized := fun _ => .inl (by decide +kernel)
      spaced := fun _ _ => ⟨' ', by decide, by decide⟩
      alone := fun _ => by decide
      call := fun _ starts => absurd starts (by decide)
      file := fun _ starts => absurd starts (by decide)
      loop := fun _ starts => absurd starts (by decide) }
  have ranFirst := run_of_isOk {} "OUTPUT y // the width" (by decide +kernel)
  have ranSecond := run_of_isOk {} "OUTPUT y " (by decide +kernel)
  have commented : Text.lines "OUTPUT y // the width" =
      [] ++ (("OUTPUT y " : Text) ++ '/' :: '/' :: (" the width" : Text)) :: [] := by decide
  have stripped : Text.lines "OUTPUT y " = [] ++ ("OUTPUT y " : Text) :: [] := by decide
  obtain ⟨-, scope⟩ := trailing_comment_scope {} commented stripped (by decide) precedes
  obtain ⟨symbols, -, kept⟩ :=
    scope (fun starts => absurd starts (by decide)) _ _ ranFirst ranSecond
  have all : ∀ diagnostics : List Diagnostic, diagnostics.filter (fun _ => true) = diagnostics :=
    fun _ => List.filter_eq_self.mpr fun _ _ => rfl
  have same := kept _ unseen
  rw [all, all] at same
  exact ⟨_, _, ranFirst, ranSecond, symbols, same, by decide +kernel⟩

/-- A remark with one double quote is reported although its line without it is not. -/
theorem quoted_remark_seen :
    ¬ ∀ (config : Config) (source bare : Text) (earlier later : List Text) (code remark : Text),
      source.lines = earlier ++ (code ++ '/' :: '/' :: remark) :: later →
      bare.lines = earlier ++ code :: later → code.trim ≠ [] → PrecedesComment code →
      ∀ first second, run config source = .ok first → run config bare = .ok second →
        first.diagnostics = second.diagnostics ∧ first.symbols = second.symbols := by
  intro unseen
  have precedes : PrecedesComment "OUTPUT 5 " := ⟨by decide, by decide, by decide⟩
  have ranFirst := run_of_isOk {} "OUTPUT 5 // 5\" tall" (by decide +kernel)
  have ranSecond := run_of_isOk {} "OUTPUT 5 " (by decide +kernel)
  have same := unseen {} "OUTPUT 5 // 5\" tall" "OUTPUT 5 " [] [] "OUTPUT 5 " " 5\" tall"
    (by decide) (by decide) (by decide) precedes _ _ ranFirst ranSecond
  exact absurd same.1 (by decide +kernel)

end Check

end PseudoLint
