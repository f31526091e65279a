import PseudoLint.Proofs.Form.Trailing
import PseudoLint.Proofs.Literal.Clean

/-! # A statement with a comment behind it

A line that ends in a comment carries the text of the line without it, then blanks, then two slashes
and the remark. Its code is the code of the line without the comment, and both lines carry something
to check. The first word is the same unless it runs into the slashes, and a line is recognised by
what stands in front of the slashes, apart from them, or by the remark.
-/

namespace PseudoLint

/-! ## Words with slashes -/

theorem Keyword.isReserved_of_slash {word : Text} (slashed : '/' ∈ word) :
    isReserved word = false := by
  have slashless : ∀ keyword ∈ reserved, '/' ∉ keyword := by decide
  have upper : '/' ∈ word.upper := List.mem_flatMap.mpr ⟨'/', slashed, by decide⟩
  rw [isReserved, List.contains_eq_mem, decide_eq_false_iff_not]
  exact fun member => slashless _ member upper

theorem isAllCapitals_of_slash {word : Text} (slashed : '/' ∈ word) :
    isAllCapitals word = false := by
  rw [Bool.eq_false_iff]
  intro capitals
  simp only [isAllCapitals, Bool.and_eq_true, List.all_eq_true] at capitals
  exact absurd (capitals.2 '/' slashed) (by decide)

/-- A word that a slash is glued to is not reserved. -/
private theorem isReserved_glued {word : Text} (slashed : '/' ∈ word) :
    (!word.isEmpty && Keyword.isReserved word) = false := by
  rw [Keyword.isReserved_of_slash slashed, Bool.and_false]

/-- A reserved word of a line with a comment stands in front of the slashes, apart from them, or
behind them. -/
theorem any_isReserved_words_append (left remark : Text) :
    (Text.words (left ++ '/' :: '/' :: remark)).any Keyword.isReserved =
      ((Text.words (left ++ ['/', '/'])).any Keyword.isReserved ||
        (Text.words ('/' :: '/' :: remark)).any Keyword.isReserved) := by
  obtain ⟨first, others, split⟩ := Text.splitOnP_slashes remark
  obtain ⟨before, last, -, whole⟩ := Text.splitOnP_append isBlank left
  have slashes : List.splitOnP isBlank ['/', '/'] = [['/', '/']] := by decide
  simp only [Text.words, Text.runs, whole split, whole slashes, split, List.any_filter,
    List.any_append, List.any_cons, List.any_nil, Bool.false_or, Bool.or_false,
    isReserved_glued (show '/' ∈ last ++ '/' :: '/' :: first by simp),
    isReserved_glued (show '/' ∈ last ++ ['/', '/'] by simp),
    isReserved_glued (show '/' ∈ '/' :: '/' :: first by simp)]

theorem any_isReserved_words_of_slashes {left : Text}
    (found : (Text.words (left ++ ['/', '/'])).any Keyword.isReserved = true) :
    (Text.words left).any Keyword.isReserved = true := by
  obtain ⟨before, last, alone, whole⟩ := Text.splitOnP_append isBlank left
  have slashes : List.splitOnP isBlank ['/', '/'] = [['/', '/']] := by decide
  simp only [Text.words, Text.runs, whole slashes, alone, List.any_filter, List.any_append,
    List.any_cons, List.any_nil, Bool.or_false, Bool.or_eq_true,
    isReserved_glued (show '/' ∈ last ++ ['/', '/'] by simp)] at found ⊢
  exact .inl found

/-! ## Statements with a comment -/

/-- A statement, the blanks behind it and the remark of the comment that follows. -/
structure CommentBehind (bare gap remark : Text) : Prop where
  solid : bare.Solid
  blank : ∀ c ∈ gap, isBlank c = true
  precedes : PrecedesComment (bare ++ gap)
  ended : '
' ∉ remark

/-- The text of a line with a comment. -/
def withComment (bare gap remark : Text) : Text :=
  bare ++ (gap ++ '/' :: '/' :: remark)

namespace CommentBehind

variable {bare gap remark : Text}

theorem toSlash (behind : CommentBehind bare gap remark) :
    Text.ToSlash (gap ++ '/' :: '/' :: remark) :=
  ⟨gap, '/' :: remark, behind.blank, rfl⟩

theorem codeOf_withComment (behind : CommentBehind bare gap remark) :
    codeOf (withComment bare gap remark) = bare := by
  have code := behind.precedes.codeOf_append_comment behind.ended
  rw [List.append_assoc, Text.trim_append_blanks behind.blank] at code
  exact code.trans behind.solid.trim_eq

theorem free_bare (behind : CommentBehind bare gap remark) :
    '"' ∉ bare ∧ '\'' ∉ bare ∧ Text.hasInfix bare "//" = false := by
  refine ⟨fun member => behind.precedes.quotes (List.mem_append_left _ member),
    fun member => behind.precedes.apostrophes (List.mem_append_left _ member), ?_⟩
  refine Text.hasInfix_eq_false_of_infix (List.IsPrefix.isInfix ?_) behind.precedes.first
  rw [List.append_assoc]
  exact List.prefix_append bare _

theorem codeOf_bare (behind : CommentBehind bare gap remark) : codeOf bare = bare := by
  obtain ⟨quotes, apostrophes, uncommented⟩ := behind.free_bare
  have single : bare.count '\'' ≤ 1 := by
    rw [List.count_eq_zero.mpr apostrophes]
    exact Nat.zero_le 1
  rw [codeOf_eq_trim quotes single uncommented, behind.solid.trim_eq]

/-- Neither line has a character literal outside of its comment. -/
theorem charLiterals_eq_nil (behind : CommentBehind bare gap remark) :
    charLiterals (withComment bare gap remark) = [] ∧ charLiterals bare = [] := by
  obtain ⟨quotes, apostrophes, uncommented⟩ := behind.free_bare
  have commented : dropStrings (withComment bare gap remark) = bare ++ gap := by
    have apart : '"' ∉ bare ++ gap ++ ['/', '/'] := by
      simpa using behind.precedes.quotes
    have whole : withComment bare gap remark = bare ++ gap ++ ['/', '/'] ++ remark := by
      simp [withComment]
    rw [dropStrings, whole, dropQuoted_append apart, List.append_assoc]
    exact dropComment_append_comment behind.precedes.first
      (not_mem_dropQuoted behind.ended (by decide))
  have plain : dropStrings bare = bare := by
    rw [dropStrings, dropQuoted_of_free quotes, dropComment_of_absent uncommented]
  rw [charLiterals, charLiterals, commented, plain,
    List.splitOn_eq_singleton behind.precedes.apostrophes,
    List.splitOn_eq_singleton apostrophes]
  exact ⟨rfl, rfl⟩

/-- Both lines carry something to check. -/
theorem isContent_eq (behind : CommentBehind bare gap remark) (line : Int) :
    (Statement.mk line (withComment bare gap remark)).isContent = true ∧
      (Statement.mk line bare).isContent = true := by
  have content : ∀ text : Text, text ≠ [] → text.startsWith "//" = false →
      (Statement.mk line text).isContent = true := by
    intro text nonempty plain
    simp only [Statement.isContent, Statement.isBlank, Statement.isComment, plain,
      List.isEmpty_eq_false_iff.mpr nonempty, Bool.not_false, Bool.and_self]
  have nonempty := behind.solid.ne_nil
  have unslashed : ∀ text : Text, text <:+: bare ++ gap ++ ['/'] →
      text.startsWith "//" = false := by
    intro text inside
    rw [Bool.eq_false_iff, ne_eq, Text.startsWith, List.isPrefixOf_iff_prefix]
    intro begins
    have present := Text.hasInfix_iff.mpr (begins.isInfix.trans inside)
    rw [behind.precedes.first] at present
    cases present
  refine ⟨content _ (List.append_ne_nil_of_left_ne_nil nonempty _) ?_, content _ nonempty ?_⟩
  · -- Two slashes at the start would be seen up to the first slash of the comment.
    have cut : (withComment bare gap remark).startsWith "//" =
        (bare ++ gap ++ ['/']).startsWith "//" := by
      have split : withComment bare gap remark = bare ++ gap ++ ['/'] ++ '/' :: remark := by
        simp [withComment]
      have long : ("//" : Text).length ≤ (bare ++ gap ++ ['/']).length := by
        obtain ⟨c, rest, rfl⟩ := List.exists_cons_of_ne_nil nonempty
        simp only [List.length_append, List.length_cons, List.length_nil]
        change 2 ≤ _
        omega
      rw [Bool.eq_iff_iff, Text.startsWith, Text.startsWith, List.isPrefixOf_iff_prefix,
        List.isPrefixOf_iff_prefix, split]
      exact ⟨fun begins => List.prefix_of_prefix_length_le begins (List.prefix_append _ _) long,
        fun begins => begins.trans (List.prefix_append _ _)⟩
    rw [cut]
    exact unslashed _ (List.infix_refl _)
  · refine unslashed _ (List.IsPrefix.isInfix ?_)
    rw [List.append_assoc]
    exact List.prefix_append bare _

theorem mem_withComment {c : Char} (solid : isBlank c = false) (other : c ≠ '/')
    (behind : CommentBehind bare gap remark) :
    c ∈ withComment bare gap remark ↔ c ∈ bare ∨ c ∈ remark := by
  have absent : c ∉ gap := fun member => by
    rw [behind.blank c member] at solid
    cases solid
  simp [withComment, absent, other]

theorem count_quote_withComment (behind : CommentBehind bare gap remark) :
    (withComment bare gap remark).count '"' = remark.count '"' := by
  have apart : (bare ++ gap).count '"' = 0 := List.count_eq_zero.mpr behind.precedes.quotes
  rw [withComment, ← List.append_assoc, List.count_append, apart]
  simp

/-! ### First words -/

theorem begins_withComment (behind : CommentBehind bare gap remark) :
    ∃ c rest, withComment bare gap remark = c :: rest ∧ isBlank c = false := by
  obtain ⟨c, rest, rfl, first⟩ := behind.solid.begins
  exact ⟨c, _, rfl, first⟩

theorem firstWord_of_spaced (behind : CommentBehind bare gap remark)
    (spaced : ∃ c ∈ bare ++ gap, isBlank c = true) (line : Int) :
    (Statement.mk line (withComment bare gap remark)).firstWord =
      (Statement.mk line bare).firstWord := by
  have stop : ∃ c ∈ bare ++ gap, (!isBlank c) = false := by simpa using spaced
  have nothing : gap.takeWhile (!isBlank ·) = [] := by
    cases gap with
    | nil => rfl
    | cons c rest => simp [behind.blank c List.mem_cons_self]
  rw [Statement.firstWord, Statement.words, Text.headD_words behind.begins_withComment,
    Statement.firstWord, Statement.words, Text.headD_words behind.solid.begins, withComment,
    ← List.append_assoc, Text.takeWhile_append_of_stop stop, Text.takeWhile_append_of_head nothing]

/-- Without a blank in front of the slashes the first word runs into the comment. -/
theorem firstWord_of_glued (behind : CommentBehind bare gap remark)
    (glued : ∀ c ∈ bare ++ gap, isBlank c = false) (line : Int) :
    isAllCapitals (Statement.mk line (withComment bare gap remark)).firstWord = false ∧
      (Statement.mk line bare).firstWord = bare := by
  have inside : ∀ c ∈ bare ++ gap, (!isBlank c) = true := by simpa using glued
  have alone : ∀ c ∈ bare, (!isBlank c) = true :=
    fun c member => inside c (List.mem_append_left _ member)
  constructor
  · rw [Statement.firstWord, Statement.words, Text.headD_words behind.begins_withComment,
      withComment, ← List.append_assoc, List.takeWhile_append_of_pos inside]
    have slash : (!isBlank '/') = true := by decide
    exact isAllCapitals_of_slash (by simp [slash])
  · have whole : (bare ++ []).takeWhile (!isBlank ·) = bare ++ [] :=
      List.takeWhile_append_of_pos alone
    rw [List.append_nil] at whole
    rw [Statement.firstWord, Statement.words, Text.headD_words behind.solid.begins, whole]

/-- What can follow a name only is found behind the first word or not at all. -/
theorem follows_append (behind : CommentBehind bare gap remark) (count : Nat)
    (within : count ≤ bare.length) :
    Rule.nameFollowers.any
        (Text.startsWith (Text.trimStart ((withComment bare gap remark).drop count)) ·) =
      Rule.nameFollowers.any (Text.startsWith (Text.trimStart (bare.drop count)) ·) := by
  have plain : ∀ word ∈ Rule.nameFollowers, '/' ∉ word ∧ word.getLast?.any isBlank = false := by
    decide
  rw [withComment, List.drop_append_of_le_length within]
  by_cases blank : Text.trimStart (bare.drop count) = []
  · -- What follows is the comment, as after `bare` without its first characters.
    have passed : Text.trimStart (bare.drop count ++ (gap ++ '/' :: '/' :: remark)) =
        '/' :: '/' :: remark := by
      rw [Text.trimStart, List.dropWhile_append]
      refine (if_pos (List.isEmpty_iff.mpr blank)).trans ?_
      exact Text.trimStart_blanks_append behind.blank _
    rw [passed, blank]
    simp [Rule.nameFollowers, Text.startsWith, List.isPrefixOf]
  · rw [Text.trimStart_append blank, Bool.eq_iff_iff, List.any_eq_true, List.any_eq_true]
    refine exists_congr fun word => and_congr_right fun listed => ?_
    obtain ⟨free, ends⟩ := plain word listed
    rw [behind.toSlash.startsWith_append free ends]

/-! ### Recognised lines -/

theorem slashes (behind : CommentBehind bare gap remark) : CommentBehind bare gap [] :=
  { behind with ended := List.not_mem_nil }

theorem beginsWithEquation_withComment (behind : CommentBehind bare gap remark) :
    Form.beginsWithEquation (withComment bare gap remark) = Form.beginsWithEquation bare :=
  Form.beginsWithEquation_append behind.solid.ne_nil behind.toSlash

/-- A line with a comment is recognised by what stands in front of the slashes, apart from them, or
by its remark. -/
theorem isRecognized_withComment (behind : CommentBehind bare gap remark) (line : Int) :
    Rule.isRecognized ⟨line, withComment bare gap remark⟩ =
      (Rule.isRecognized ⟨line, withComment bare gap []⟩ ||
        Rule.isRecognized ⟨line, '/' :: '/' :: remark⟩) := by
  have words := any_isReserved_words_append (bare ++ gap) remark
  rw [List.append_assoc, List.append_assoc] at words
  have characters : ∀ c, (withComment bare gap remark).contains c =
      ((withComment bare gap []).contains c || ('/' :: '/' :: remark : Text).contains c) := by
    intro c
    rw [Bool.eq_iff_iff]
    simp only [withComment, Bool.or_eq_true, List.contains_iff_mem, List.mem_append, List.mem_cons,
      List.not_mem_nil, or_false]
    grind
  have unnamed : Form.beginsWithEquation ('/' :: '/' :: remark) = false := rfl
  simp only [Rule.isRecognized, Statement.words, Statement.hasArrow, characters, unnamed,
    behind.beginsWithEquation_withComment, behind.slashes.beginsWithEquation_withComment,
    Bool.or_false]
  rw [withComment, words, ← withComment]
  ac_rfl

theorem isRecognized_of_slashes (behind : CommentBehind bare gap remark) {line : Int}
    (slashed : Rule.isRecognized ⟨line, withComment bare gap []⟩ = true) :
    Rule.isRecognized ⟨line, bare⟩ = true := by
  have words : (Text.words (withComment bare gap [])).any Keyword.isReserved = true →
      bare.words.any Keyword.isReserved = true := by
    intro found
    rw [withComment, ← List.append_assoc] at found
    have spaced := any_isReserved_words_of_slashes found
    rwa [Text.words, Text.runs_append_separators behind.blank] at spaced
  have characters : ∀ c, isBlank c = false → c ≠ '/' →
      (withComment bare gap []).contains c = true → bare.contains c = true := by
    intro c solid other found
    rw [List.contains_iff_mem] at found ⊢
    simpa using (mem_withComment solid other behind.slashes).mp found
  simp only [Rule.isRecognized, Statement.words, Statement.hasArrow,
    behind.slashes.beginsWithEquation_withComment, Bool.or_eq_true] at slashed ⊢
  rcases slashed with ((reserved | arrow) | equation) | colon
  · exact .inl (.inl (.inl (words reserved)))
  · exact .inl (.inl (.inr (characters assignArrow (by decide) (by decide) arrow)))
  · exact .inl (.inr equation)
  · exact .inr (characters ':' (by decide) (by decide) colon)

/-- A comment does not decide whether a line is recognised if the statement is recognised apart from
the slashes, or if neither the statement nor the remark is. -/
theorem isRecognized_eq (behind : CommentBehind bare gap remark) (line : Int)
    (decided : Rule.isRecognized ⟨line, withComment bare gap []⟩ = true ∨
      Rule.isRecognized ⟨line, bare⟩ = false ∧
        Rule.isRecognized ⟨line, '/' :: '/' :: remark⟩ = false) :
    Rule.isRecognized ⟨line, withComment bare gap remark⟩ = Rule.isRecognized ⟨line, bare⟩ := by
  rw [behind.isRecognized_withComment]
  rcases decided with apart | ⟨plain, silent⟩
  · rw [apart, Bool.true_or, behind.isRecognized_of_slashes apart]
  · have glued : Rule.isRecognized ⟨line, withComment bare gap []⟩ = false := by
      rw [Bool.eq_false_iff]
      intro apart
      rw [behind.isRecognized_of_slashes apart] at plain
      cases plain
    rw [glued, plain, silent, Bool.or_self]

end CommentBehind

/-! ## Lines with a comment -/

/-- The statement on a line with a comment is the one without it, some blanks and the comment. -/
theorem exists_commentBehind {code remark : Text} (nonblank : code.trim ≠ [])
    (precedes : PrecedesComment code) (ended : '\n' ∉ remark) :
    ∃ gap, CommentBehind code.trim gap remark.trimEnd ∧ code.trimStart = code.trim ++ gap ∧
      ∀ said : Text, (code ++ '/' :: '/' :: said).trim =
        withComment code.trim gap said.trimEnd := by
  obtain ⟨gap, blank, split⟩ := Text.exists_trimEnd code.trimStart
  have solid := Text.solid_trim nonblank
  have spaced : code.trimStart ≠ [] := by
    intro nothing
    rw [Text.trim, nothing] at nonblank
    exact nonblank rfl
  refine ⟨gap, ⟨solid, blank, ?_, ?_⟩, split, ?_⟩
  · have suffix : code.trimStart <:+ code := Form.trimStart_suffix code
    have same : code.trim ++ gap = code.trimStart := split.symm
    rw [same]
    refine ⟨fun member => precedes.quotes (suffix.subset member),
      fun member => precedes.apostrophes (suffix.subset member), ?_⟩
    refine Text.hasInfix_eq_false_of_infix (List.IsSuffix.isInfix ?_) precedes.first
    obtain ⟨leading, whole⟩ := suffix
    exact ⟨leading, by rw [← List.append_assoc, whole]⟩
  · obtain ⟨ending, -, whole⟩ := Text.exists_trimEnd remark
    intro member
    rw [whole] at ended
    exact ended (List.mem_append_left _ member)
  · intro said
    have slash : isBlank '/' = false := by decide
    have slashed : Text.trimEnd (code.trimStart ++ '/' :: '/' :: said) =
        code.trimStart ++ '/' :: '/' :: said.trimEnd := by
      rw [Text.trimEnd_append_cons slash]
      exact congrArg (code.trimStart ++ '/' :: ·) (Text.trimEnd_append_cons slash [] said)
    have same : code.trimStart = code.trim ++ gap := split
    rw [Text.trim, Text.trimStart_append spaced, slashed, same, withComment, List.append_assoc]

end PseudoLint
