import PseudoLint.Proofs.Check.Provenance
import PseudoLint.Proofs.Text.UpperCase

/-! # What is said about the words of a line

Two rules judge the words of a line. The one on the shape of names looks at all runs of word
characters and lets reserved words and numbers pass; the one on the case of reserved words looks
at the names among the runs only. So between them there is one gap: a word beyond ASCII whose
upper-case form is reserved is left alone by the first rule as a reserved word and by the second
one as no name. Every other run is a reserved word, a number, a strict name or is reported.
-/

namespace PseudoLint

theorem isWordChar_of_mem_wordRuns {text word : Text} (run : word ∈ wordRuns text) {c : Char}
    (member : c ∈ word) : isWordChar c = true := by
  have outside := (Text.mem_of_mem_splitOnP (List.mem_filter.mp run).1 member).2
  rwa [Bool.not_eq_false'] at outside

theorem quote_not_mem_of_mem_wordRuns {text word : Text} (run : word ∈ wordRuns text) :
    '\'' ∉ word := by
  intro member
  have inWord := isWordChar_of_mem_wordRuns run member
  revert inWord
  decide

/-- A name is made of ASCII letters, digits and underscores and does not begin with a digit. -/
theorem isName_eq (word : Text) :
    isName word = (!word.isEmpty && word.all isNameChar && !(word.take 1).any isAsciiDigit) := by
  have apart : ∀ c, isNameStart c = (isNameChar c && !isAsciiDigit c) := by
    intro c
    have letter : isAsciiLetter c = true → isAsciiDigit c = false := by
      simp only [isAsciiLetter, isAsciiDigit, Bool.or_eq_true, Bool.and_eq_true, decide_eq_true_eq,
        Bool.and_eq_false_iff, decide_eq_false_iff_not]
      omega
    have underscore : (c == '_') = true → isAsciiDigit c = false := by
      intro same
      rw [beq_iff_eq.mp same]
      decide
    unfold isNameStart isNameChar
    cases letters : isAsciiLetter c <;> cases underscores : c == '_' <;>
      cases digits : isAsciiDigit c <;> simp_all
  cases word with
  | nil => rfl
  | cons c rest =>
    simp only [isName, apart, List.isEmpty_cons, Bool.not_false, Bool.true_and, List.all_cons,
      List.take_succ_cons, List.take_zero, List.any_cons, List.any_nil, Bool.or_false]
    cases isNameChar c <;> cases isAsciiDigit c <;> simp

/-! ## Reserved words -/

namespace Keyword

theorem all_isAsciiLetter_of_mem_reserved : ∀ word ∈ reserved, word.all isAsciiLetter = true := by
  decide +kernel

/-- Reserved words are their own upper-case forms. -/
theorem upper_of_mem_reserved : ∀ word ∈ reserved, word.upper = word := by
  decide +kernel

theorem isReserved_iff {word : Text} : isReserved word = true ↔ word.upper ∈ reserved := by
  rw [isReserved, List.contains_eq_mem, decide_eq_true_eq]

theorem mem_reserved_iff {word : Text} :
    word ∈ reserved ↔ isReserved word = true ∧ word = word.upper := by
  rw [isReserved_iff]
  constructor
  · intro member
    have same := upper_of_mem_reserved word member
    exact ⟨by rwa [same], same.symm⟩
  · rintro ⟨member, same⟩
    rwa [same]

/-- A reserved word in ASCII, in whatever case, is made of letters. -/
theorem isAsciiLetter_of_isReserved {word : Text} (reads : isReserved word = true)
    (ascii : ∀ c ∈ word, c.toNat < 0x80) : ∀ c ∈ word, isAsciiLetter c = true := by
  have spelled := Text.upper_of_ascii ascii
  have letters := all_isAsciiLetter_of_mem_reserved _ (isReserved_iff.mp reads)
  exact Text.isAsciiLetter_of_spelled (List.all_eq_true.mp letters) spelled.symm

/-- A reserved word is a name if and only if it is in ASCII. -/
theorem isName_iff_of_isReserved {word : Text} (reads : isReserved word = true) :
    isName word = true ↔ ∀ c ∈ word, c.toNat < 0x80 := by
  constructor
  · exact fun named c member => isAscii_of_isNameChar (isNameChar_of_mem named member)
  · intro ascii
    have letter := isAsciiLetter_of_isReserved reads ascii
    cases word with
    | nil =>
      have absent : isReserved [] = false := by decide
      rw [absent] at reads
      cases reads
    | cons c rest =>
      obtain ⟨first, later⟩ := List.forall_mem_cons.mp letter
      simp only [isName, isNameStart, first, Bool.true_or, Bool.true_and, List.all_eq_true,
        isNameChar, Bool.or_eq_true]
      exact fun d member => .inl (.inl (later d member))

end Keyword

/-! ## What a message quotes first -/

namespace Finding

/-- The text that a message quotes first; empty if it quotes none. -/
def firstQuoted (message : Text) : Text :=
  ((message.dropWhile (· != '\'')).drop 1).takeWhile (· != '\'')

theorem firstQuoted_quoting (start : Text) {word : Text} (plain : '\'' ∉ start)
    (free : '\'' ∉ word) (rest : Text) :
    firstQuoted (start ++ '\'' :: (word ++ '\'' :: rest)) = word := by
  rw [firstQuoted, dropWhile_quote plain, List.drop_one, List.tail_cons,
    Text.takeWhile_append_of_free free]
  simp

/-- What a rule on words says about one that it judges. -/
inductive IsWordFinding (word : Text) : Finding → Prop
  | startsWithDigit : IsWordFinding word (.nameStartsWithDigit word)
  | hasInvalidCharacters : IsWordFinding word (.nameHasInvalidCharacters word)
  | keywordCase : IsWordFinding word (.keywordCase word)

/-- The rules on words quote the word that they judge. -/
theorem IsWordFinding.firstQuoted_message {word : Text} {finding : Finding}
    (judges : IsWordFinding word finding) (free : '\'' ∉ word) :
    firstQuoted finding.message = word := by
  unfold message
  cases judges with
  | startsWithDigit | hasInvalidCharacters =>
    have quoted := firstQuoted_quoting ['I', 'd', 'e', 'n', 't', 'i', 'f', 'i', 'e', 'r', ' ']
      (by decide) free
    dsimp only
    repeat rw [String.toList_ofList]
    simp only [List.cons_append, List.nil_append] at quoted ⊢
    exact quoted _
  | keywordCase =>
    have quoted := firstQuoted_quoting ['K', 'e', 'y', 'w', 'o', 'r', 'd', ' '] (by decide) free
    dsimp only
    repeat rw [String.toList_ofList]
    simp only [List.append_assoc, List.cons_append, List.nil_append] at quoted ⊢
    exact quoted _

/-- The findings on misshapen words and their code. -/
theorem code_eq_shape_iff {finding : Finding} :
    finding.code = "E011" ↔ ∃ word,
      finding = .nameStartsWithDigit word ∨ finding = .nameHasInvalidCharacters word := by
  unfold code
  cases finding <;> simp

theorem code_eq_case_iff {finding : Finding} :
    finding.code = "E014" ↔ ∃ word, finding = .keywordCase word := by
  unfold code
  cases finding <;> simp

end Finding

/-! ## What the two rules say -/

namespace Rule

/-- The rule on names objects to a word that is neither reserved nor a number nor a strict name. -/
def Misshapen (word : Text) : Prop :=
  Keyword.isReserved word = false ∧ word.all isDigit = false ∧ isStrictName word = false

/-- The rule on reserved words objects to one in ASCII that is not written in capitals. -/
def Miscased (word : Text) : Prop :=
  Keyword.isReserved word = true ∧ word ∉ Keyword.reserved ∧ ∀ c ∈ word, c.toNat < 0x80

/-- What is said about a misshapen word. -/
def shapeFinding (word : Text) : Finding :=
  if (word.take 1).all isDigit then .nameStartsWithDigit word else .nameHasInvalidCharacters word

theorem isWordFinding_shapeFinding (word : Text) : (shapeFinding word).IsWordFinding word := by
  unfold shapeFinding
  split
  · exact .startsWithDigit
  · exact .hasInvalidCharacters

theorem code_shapeFinding (word : Text) : (shapeFinding word).code = "E011" := by
  unfold shapeFinding
  split <;> rfl

theorem mem_nameShapeFindings_iff {word : Text} {finding : Finding} :
    finding ∈ nameShapeFindings word ↔ Misshapen word ∧ finding = shapeFinding word := by
  have strict : isStrictName word = true → (word.take 1).all isDigit = false := by
    intro strict
    cases word with
    | nil => cases strict
    | cons c rest =>
      have letter : isNameStart c = true := by
        rw [isNameStart, (Bool.and_eq_true_iff.mp strict).1, Bool.true_or]
      simp [not_isDigit_of_isNameStart letter]
  unfold nameShapeFindings Misshapen shapeFinding
  cases reads : Keyword.isReserved word <;> cases digits : word.all isDigit <;>
    cases named : isStrictName word <;> cases begins : (word.take 1).all isDigit <;>
      simp_all

theorem mem_shapes_iff {code : Text} {finding : Finding} :
    finding ∈ (wordRuns code).flatMap nameShapeFindings ↔
      ∃ word ∈ wordRuns code, Misshapen word ∧ finding = shapeFinding word := by
  simp only [List.mem_flatMap, mem_nameShapeFindings_iff]

theorem miscased_iff {word : Text} :
    Miscased word ↔ isName word = true ∧
      (Keyword.isReserved word && word != word.upper) = true := by
  rw [Bool.and_eq_true, bne_iff_ne]
  constructor
  · rintro ⟨reads, other, ascii⟩
    exact ⟨(Keyword.isName_iff_of_isReserved reads).mpr ascii, reads,
      fun same => other (Keyword.mem_reserved_iff.mpr ⟨reads, same⟩)⟩
  · rintro ⟨named, reads, other⟩
    exact ⟨reads, fun member => other (Keyword.mem_reserved_iff.mp member).2,
      (Keyword.isName_iff_of_isReserved reads).mp named⟩

theorem mem_cases_iff {statement : Statement} {finding : Finding} :
    finding ∈ (statement.names.filter fun word =>
        Keyword.isReserved word && word != word.upper).map .keywordCase ↔
      ∃ word ∈ wordRuns statement.code, Miscased word ∧ finding = .keywordCase word := by
  simp only [List.mem_map, Statement.names, names_eq_filter_wordRuns, List.mem_filter, miscased_iff,
    and_assoc]
  constructor
  · rintro ⟨word, run, named, miscased, rfl⟩
    exact ⟨word, run, named, miscased, rfl⟩
  · rintro ⟨word, run, named, miscased, rfl⟩
    exact ⟨word, run, named, miscased, rfl⟩

end Rule

/-! ## What is reported on a line -/

namespace Check

/-- Whether a word is reported under a code on a line: a diagnostic quotes it first. -/
def Reported (diagnostics : List Diagnostic) (number : Int) (code word : Text) : Prop :=
  ∃ diagnostic ∈ diagnostics, diagnostic.line = number ∧ diagnostic.code = code ∧
    Finding.firstQuoted diagnostic.message = word

theorem reported_map_on_iff {findings : List Finding} {number : Int} {code word : Text} :
    Reported (findings.map (·.on number)) number code word ↔
      ∃ finding ∈ findings, finding.code = code ∧ Finding.firstQuoted finding.message = word := by
  constructor
  · rintro ⟨_, member, -, category, quoted⟩
    obtain ⟨finding, present, rfl⟩ := List.mem_map.mp member
    exact ⟨finding, present, category, quoted⟩
  · rintro ⟨finding, present, category, quoted⟩
    exact ⟨_, List.mem_map_of_mem present, rfl, category, quoted⟩

/-- Where a word of a line stands, if `reported` tells the codes under which it is reported. -/
inductive Standing (reported : Text → Prop) (word : Text) : Prop
  /-- A reserved word in capitals. -/
  | keyword (capitals : word ∈ Keyword.reserved)
  /-- A number, in digits of any kind. -/
  | number (digits : word.all isDigit = true)
  /-- A name that begins with a letter and is not reserved in any case. -/
  | name (strict : isStrictName word = true) (free : Keyword.isReserved word = false)
  | misshapen (said : reported "E011")
  | miscased (said : reported "E014")
  /-- The gap: a word beyond ASCII whose upper-case form is reserved. -/
  | hidden (beyond : ∃ c ∈ word, 0x80 ≤ c.toNat) (reads : Keyword.isReserved word = true)
      (noShape : ¬ reported "E011") (noCase : ¬ reported "E014")

/-- What is said about a word of a line, and where it stands. -/
structure Judged (reported : Text → Prop) (word : Text) : Prop where
  shape : reported "E011" ↔
    Keyword.isReserved word = false ∧ word.all isDigit = false ∧ isStrictName word = false
  case : reported "E014" ↔
    Keyword.isReserved word = true ∧ word ∉ Keyword.reserved ∧ ∀ c ∈ word, c.toNat < 0x80
  standing : Standing reported word

theorem standing_of_iff {reported : Text → Prop} {word : Text}
    (shape : reported "E011" ↔ Rule.Misshapen word) (case : reported "E014" ↔ Rule.Miscased word) :
    Standing reported word := by
  cases reads : Keyword.isReserved word with
  | true =>
    have noShape : ¬ reported "E011" := by
      intro said
      rw [(shape.mp said).1] at reads
      cases reads
    by_cases capitals : word ∈ Keyword.reserved
    · exact .keyword capitals
    by_cases beyond : ∃ c ∈ word, 0x80 ≤ c.toNat
    · have noCase : ¬ reported "E014" := by
        obtain ⟨c, member, high⟩ := beyond
        exact fun said => absurd ((case.mp said).2.2 c member) (Nat.not_lt.mpr high)
      exact .hidden beyond reads noShape noCase
    · have ascii : ∀ c ∈ word, c.toNat < 0x80 :=
        fun c member => Nat.lt_of_not_le fun high => beyond ⟨c, member, high⟩
      exact .miscased (case.mpr ⟨reads, capitals, ascii⟩)
  | false =>
    cases digits : word.all isDigit with
    | true => exact .number digits
    | false =>
      cases strict : isStrictName word with
      | true => exact .name strict reads
      | false => exact .misshapen (shape.mpr ⟨reads, digits, strict⟩)

/-- Findings that say of the words of a statement what the two rules say. -/
structure JudgesWords (statement : Statement) (findings : List Finding) : Prop where
  shape : ∀ finding : Finding, finding.code = "E011" → (finding ∈ findings ↔
    finding ∈ (wordRuns statement.code).flatMap Rule.nameShapeFindings)
  case : ∀ finding : Finding, finding.code = "E014" → (finding ∈ findings ↔
    finding ∈ (statement.names.filter fun word =>
      Keyword.isReserved word && word != word.upper).map .keywordCase)

/-- Where the findings of a code are those on the judged words, the judged words are reported. -/
theorem reported_iff_of_mem_iff {text : Text} {findings : List Finding} {code : Text}
    {judged : Text → Prop} {say : Text → Finding} (coded : ∀ word, (say word).code = code)
    (quotes : ∀ word, (say word).IsWordFinding word)
    (found : ∀ finding : Finding, finding.code = code → (finding ∈ findings ↔
      ∃ word ∈ wordRuns text, judged word ∧ finding = say word))
    (number : Int) {word : Text} (run : word ∈ wordRuns text) :
    Reported (findings.map (·.on number)) number code word ↔ judged word := by
  rw [reported_map_on_iff]
  constructor
  · rintro ⟨finding, present, category, quoted⟩
    obtain ⟨other, otherRun, objected, rfl⟩ := (found finding category).mp present
    rw [(quotes other).firstQuoted_message (quote_not_mem_of_mem_wordRuns otherRun)] at quoted
    exact quoted ▸ objected
  · intro objected
    exact ⟨say word, (found _ (coded word)).mpr ⟨word, run, objected, rfl⟩, coded word,
      (quotes word).firstQuoted_message (quote_not_mem_of_mem_wordRuns run)⟩

theorem JudgesWords.judged {statement : Statement} {findings : List Finding}
    (judges : JudgesWords statement findings) (number : Int) {word : Text}
    (run : word ∈ wordRuns statement.code) :
    Judged (Reported (findings.map (·.on number)) number · word) word := by
  have shape : Reported (findings.map (·.on number)) number "E011" word ↔ Rule.Misshapen word :=
    reported_iff_of_mem_iff Rule.code_shapeFinding Rule.isWordFinding_shapeFinding
      (fun finding category => (judges.shape finding category).trans Rule.mem_shapes_iff)
      number run
  have coded (word : Text) : (Finding.keywordCase word).code = "E014" := rfl
  have case : Reported (findings.map (·.on number)) number "E014" word ↔ Rule.Miscased word :=
    reported_iff_of_mem_iff coded (fun _ => .keywordCase)
      (fun finding category => (judges.case finding category).trans Rule.mem_cases_iff)
      number run
  exact ⟨shape, case, standing_of_iff shape case⟩

/-- The findings of the two rules alone. -/
theorem judgesWords_rules (statement : Statement) :
    JudgesWords statement ((wordRuns statement.code).flatMap Rule.nameShapeFindings ++
      (statement.names.filter fun word =>
        Keyword.isReserved word && word != word.upper).map .keywordCase) where
  shape := by
    intro finding category
    rw [List.mem_append]
    refine or_iff_left fun found => ?_
    obtain ⟨word, -, rfl⟩ := List.mem_map.mp found
    have other : (Finding.keywordCase word).code = "E014" := rfl
    rw [other] at category
    revert category
    decide
  case := by
    intro finding category
    rw [List.mem_append]
    refine or_iff_right fun found => ?_
    obtain ⟨word, -, -, rfl⟩ := Rule.mem_shapes_iff.mp found
    rw [Rule.code_shapeFinding] at category
    revert category
    decide

/-- The findings of all rules: no other rule reports under the codes of the two. -/
theorem judgesWords_findings (config : Config) (line : Line) (state : State) :
    JudgesWords line.statement (findings config line state) where
  shape := by
    intro finding category
    obtain ⟨word, shapes⟩ := Finding.code_eq_shape_iff.mp category
    have wording : finding.topic = .wording := by
      rcases shapes with rfl | rfl <;> rfl
    rw [mem_findings_iff, wording]
    simp only [onTopic, Rule.wordingFindings, List.mem_append, Rule.mem_whenever]
    rcases shapes with rfl | rfl <;> simp
  case := by
    intro finding category
    obtain ⟨word, rfl⟩ := Finding.code_eq_case_iff.mp category
    rw [mem_findings_iff]
    simp only [Finding.topic, onTopic, Rule.keywordFindings, List.mem_append]
    refine or_iff_left fun found => ?_
    obtain ⟨other, -, same⟩ := List.mem_map.mp found
    cases same

/-- Every run of word characters of a line is a reserved word in capitals, a number or a strict
name, or it is reported, unless it holds a character beyond ASCII and reads as a reserved word. The
two rules say so in every state, and what passes a line says so too. The names of a text are its
runs of letters, digits and underscores of ASCII that do not begin with a digit. -/
theorem words_judged (config : Config) (line : Line) (state : State) :
    (∃ shapes cases : List Finding,
      Rule.nameShape config line.statement state = .ok (state, shapes) ∧
      Rule.keywordCase config line.statement state = .ok (state, cases) ∧
      ∀ word ∈ wordRuns line.statement.code,
        Judged (Reported ((shapes ++ cases).map (·.on line.number)) line.number · word) word) ∧
    (∀ next diagnostics, inspect config line state = .ok (next, diagnostics) →
      ∀ word ∈ wordRuns line.statement.code,
        Judged (Reported diagnostics line.number · word) word) ∧
    ∀ code : Text, names code =
      (wordRuns code).filter fun word =>
        word.all isNameChar && !(word.take 1).any isAsciiDigit := by
  refine ⟨⟨_, _, rfl, rfl, ?_⟩, ?_, ?_⟩
  · exact fun word run => (judgesWords_rules line.statement).judged line.number run
  · intro next diagnostics passed word run
    rw [inspect_eq_ok passed]
    exact (judgesWords_findings config line state).judged line.number run
  · intro code
    rw [names_eq_filter_wordRuns]
    apply List.filter_congr
    intro word run
    rw [isName_eq, (List.mem_filter.mp run).2, Bool.true_and]

/-- A digit in front and a small reserved word are reported; a reserved word with a dotless letter
is in the gap. -/
theorem dotless_if_unreported :
    let line : Line := ⟨1, "OUTPUT 2x ıf if"⟩
    wordRuns line.statement.code =
      ["OUTPUT".toList, "2x".toList, "ıf".toList, "if".toList] ∧
    Keyword.isReserved "ıf" = true ∧
    ∃ next diagnostics, inspect {} line {} = .ok (next, diagnostics) ∧
      Reported diagnostics 1 "E011" "2x" ∧ Reported diagnostics 1 "E014" "if" ∧
      ¬ Reported diagnostics 1 "E011" "ıf" ∧ ¬ Reported diagnostics 1 "E014" "ıf" := by
  intro line
  have facts : wordRuns line.statement.code =
        ["OUTPUT".toList, "2x".toList, "ıf".toList, "if".toList] ∧
      Keyword.isReserved "ıf" = true ∧ (inspect {} line {}).isOk = true ∧
      (Keyword.isReserved "2x" = false ∧ "2x".toList.all isDigit = false ∧
        isStrictName "2x" = false) ∧
      (Keyword.isReserved "if" = true ∧ "if".toList ∉ Keyword.reserved ∧
        "if".toList.all (·.toNat < 0x80) = true) ∧
      "ıf".toList.all (·.toNat < 0x80) = false := by
    decide +kernel
  obtain ⟨runs, reads, returns, misshapen, ⟨small, unlisted, plain⟩, beyond⟩ := facts
  simp only [List.all_eq_true, decide_eq_true_eq] at plain
  cases passed : inspect {} line {} with
  | error fault =>
    rw [passed] at returns
    cases returns
  | ok result =>
    have judged := (words_judged {} line {}).2.1 _ _ passed
    rw [runs] at judged
    refine ⟨runs, reads, _, _, rfl, ?_, ?_, ?_, ?_⟩
    · exact (judged "2x" (by simp)).shape.mpr misshapen
    · exact (judged "if" (by simp)).case.mpr ⟨small, unlisted, plain⟩
    · intro said
      rw [((judged "ıf" (by simp)).shape.mp said).1] at reads
      cases reads
    · intro said
      have ascii := ((judged "ıf" (by simp)).case.mp said).2.2
      simp only [List.all_eq_false, decide_eq_true_eq] at beyond
      obtain ⟨c, member, wide⟩ := beyond
      exact wide (ascii c member)

end Check

end PseudoLint
