import PseudoLint.Proofs.Text.Newline

/-! # What a text is read as when more follows

What is read off a text from the left is the same when blanks and a slash follow it: a stretch of a
class that has neither ends where it ended (`ToSlash.takeWhile_append`), and a word without slashes
begins the longer text only if it begins the text (`ToSlash.startsWith_append`). Words in a row grow
together where the two texts meet (`splitOnP_append`).
-/

namespace PseudoLint.Text

/-! ## Trimmed texts -/

/-- A text that is not empty and neither begins nor ends with a blank. -/
structure Solid (text : Text) : Prop where
  begins : ∃ c rest, text = c :: rest ∧ isBlank c = false
  ends : ∃ before c, text = before ++ [c] ∧ isBlank c = false

theorem exists_trimEnd (text : Text) :
    ∃ ending : Text, (∀ c ∈ ending, isBlank c = true) ∧ text = text.trimEnd ++ ending := by
  refine ⟨(text.reverse.takeWhile isBlank).reverse, ?_, ?_⟩
  · exact fun c member => List.all_eq_true.mp List.all_takeWhile c (List.mem_reverse.mp member)
  · rw [trimEnd, ← List.reverse_append, List.takeWhile_append_dropWhile, List.reverse_reverse]

theorem count_trimEnd {c : Char} (solid : isBlank c = false) (text : Text) :
    text.trimEnd.count c = text.count c := by
  obtain ⟨ending, blank, split⟩ := exists_trimEnd text
  have absent : ending.count c = 0 := List.count_eq_zero.mpr fun member => by
    rw [blank c member] at solid
    cases solid
  have counted := congrArg (List.count c) split
  rw [List.count_append, absent, Nat.add_zero] at counted
  exact counted.symm

theorem mem_trimEnd {c : Char} (solid : isBlank c = false) {text : Text} :
    c ∈ text.trimEnd ↔ c ∈ text := by
  rw [← List.count_pos_iff, count_trimEnd solid, List.count_pos_iff]

theorem mem_trim {c : Char} (solid : isBlank c = false) {text : Text} :
    c ∈ text.trim ↔ c ∈ text := by
  refine ⟨mem_of_mem_trim, fun member => ?_⟩
  obtain ⟨beginning, ending, before, behind, split⟩ := exists_trim text
  rw [split] at member
  have outside : ∀ blanks : Text, (∀ d ∈ blanks, isBlank d = true) → c ∉ blanks := by
    intro blanks blank present
    rw [blank c present] at solid
    cases solid
  simpa [outside beginning before, outside ending behind] using member

theorem trimStart_begins {text : Text} (nonblank : text.trimStart ≠ []) :
    ∃ c rest, text.trimStart = c :: rest ∧ isBlank c = false := by
  obtain ⟨c, rest, split⟩ := List.exists_cons_of_ne_nil nonblank
  have stops := List.head?_dropWhile_not isBlank text
  rw [show text.dropWhile isBlank = c :: rest from split] at stops
  exact ⟨c, rest, split, stops⟩

theorem solid_trim {text : Text} (nonblank : text.trim ≠ []) : Solid text.trim := by
  have reversed : text.trim = (trimStart text.trimStart.reverse).reverse := rfl
  have inner : trimStart text.trimStart.reverse ≠ [] :=
    fun nothing => nonblank (by rw [reversed, nothing]; rfl)
  obtain ⟨last, before, split, lastSolid⟩ := trimStart_begins inner
  have ends : text.trim = before.reverse ++ [last] := by rw [reversed, split, List.reverse_cons]
  refine ⟨?_, before.reverse, last, ends, lastSolid⟩
  -- What trimming at the end leaves is a beginning of what it was given.
  have outer : text.trimStart ≠ [] := fun nothing => inner (by rw [nothing]; rfl)
  obtain ⟨c, rest, start, firstSolid⟩ := trimStart_begins outer
  obtain ⟨ending, -, whole⟩ := exists_trimEnd text.trimStart
  obtain ⟨d, others, trimmed⟩ := List.exists_cons_of_ne_nil nonblank
  rw [show text.trimStart.trimEnd = d :: others from trimmed, start] at whole
  obtain ⟨rfl, -⟩ := List.cons.inj whole
  exact ⟨c, others, trimmed, firstSolid⟩

theorem Solid.ne_nil {text : Text} (solid : Solid text) : text ≠ [] := by
  obtain ⟨c, rest, rfl, -⟩ := solid.begins
  exact List.cons_ne_nil c rest

theorem Solid.trim_eq {text : Text} (solid : Solid text) : text.trim = text := by
  obtain ⟨c, rest, begins, first⟩ := solid.begins
  obtain ⟨before, d, ends, last⟩ := solid.ends
  rw [trim, trimStart_of_solid begins first, trimEnd_of_solid ends last]

/-- A trimmed text neither begins nor ends with a blank. -/
theorem trimmed_trim (text : Text) :
    text.trim.head?.any isBlank = false ∧ text.trim.getLast?.any isBlank = false := by
  by_cases nothing : text.trim = []
  · rw [nothing]
    exact ⟨rfl, rfl⟩
  · obtain ⟨⟨c, rest, begins, first⟩, before, d, ends, last⟩ := solid_trim nothing
    constructor
    · rw [begins]
      exact first
    · rw [ends, List.getLast?_concat]
      exact last

theorem trim_of_trimmed {text : Text} (begins : text.head?.any isBlank = false)
    (ends : text.getLast?.any isBlank = false) : text.trim = text := by
  rcases List.eq_nil_or_concat text with rfl | ⟨before, last, split⟩
  · rfl
  · rw [List.concat_eq_append] at split
    have solid : Solid text := by
      refine ⟨?_, before, last, split, ?_⟩
      · cases text with
        | nil => simp at split
        | cons c rest => exact ⟨c, rest, rfl, begins⟩
      · rwa [split, List.getLast?_concat] at ends
    exact solid.trim_eq

/-- Trimming at the end does not go past a character that is not blank. -/
theorem trimEnd_append_cons {c : Char} (solid : isBlank c = false) (left right : Text) :
    trimEnd (left ++ c :: right) = left ++ c :: right.trimEnd := by
  have behind : (right.reverse ++ (c :: left.reverse)).dropWhile isBlank =
      right.reverse.dropWhile isBlank ++ c :: left.reverse := by
    rw [List.dropWhile_append]
    split
    · rename_i nothing
      rw [List.isEmpty_iff.mp nothing, List.dropWhile_cons_of_neg (by simp [solid]),
        List.nil_append]
    · rfl
  have reversed : (left ++ c :: right).reverse = right.reverse ++ (c :: left.reverse) := by simp
  rw [trimEnd, reversed, behind]
  simp [trimEnd]

/-- Around a character that is not blank each side is trimmed by itself. -/
theorem trim_append_cons {c : Char} (solid : isBlank c = false) (left right : Text) :
    trim (left ++ c :: right) = left.trimStart ++ c :: right.trimEnd := by
  have front : trimStart (left ++ c :: right) = left.trimStart ++ c :: right := by
    rw [trimStart, List.dropWhile_append]
    split
    · rename_i nothing
      rw [trimStart, List.isEmpty_iff.mp nothing, List.dropWhile_cons_of_neg (by simp [solid]),
        List.nil_append]
    · rfl
  rw [trim, front, trimEnd_append_cons solid]

theorem trimStart_append {text : Text} (nonblank : text.trimStart ≠ []) (tail : Text) :
    (text ++ tail).trimStart = text.trimStart ++ tail := by
  rw [trimStart, List.dropWhile_append]
  exact if_neg fun nothing => nonblank (List.isEmpty_iff.mp nothing)

theorem takeWhile_append_of_stop {inClass : Char → Bool} {text : Text}
    (stop : ∃ c ∈ text, inClass c = false) (tail : Text) :
    (text ++ tail).takeWhile inClass = text.takeWhile inClass := by
  induction text with
  | nil => simp at stop
  | cons c rest ih =>
    cases inside : inClass c with
    | false => simp [inside]
    | true =>
      have later : ∃ d ∈ rest, inClass d = false := by simpa [inside] using stop
      rw [List.cons_append, List.takeWhile_cons, List.takeWhile_cons, ih later]

theorem takeWhile_append_of_head {inClass : Char → Bool} {tail : Text}
    (nothing : tail.takeWhile inClass = []) (text : Text) :
    (text ++ tail).takeWhile inClass = text.takeWhile inClass := by
  induction text with
  | nil => exact nothing
  | cons c rest ih => rw [List.cons_append, List.takeWhile_cons, List.takeWhile_cons, ih]

/-- Taking stops before what follows a text exactly if dropping does. -/
theorem takeWhile_append_eq_iff {inClass : Char → Bool} {text tail : Text} :
    (text ++ tail).takeWhile inClass = text.takeWhile inClass ↔
      (text ++ tail).dropWhile inClass = text.dropWhile inClass ++ tail := by
  have parts : (text ++ tail).takeWhile inClass ++ (text ++ tail).dropWhile inClass =
      text.takeWhile inClass ++ (text.dropWhile inClass ++ tail) := by
    rw [List.takeWhile_append_dropWhile, ← List.append_assoc, List.takeWhile_append_dropWhile]
  constructor
  · intro taken
    rw [taken] at parts
    exact List.append_cancel_left parts
  · intro dropped
    rw [dropped] at parts
    exact List.append_cancel_right parts

theorem startsWith_append_of_startsWith {text word : Text} (begins : text.startsWith word = true)
    (tail : Text) : (text ++ tail).startsWith word = true := by
  rw [startsWith, List.isPrefixOf_iff_prefix] at begins ⊢
  exact begins.trans (List.prefix_append text tail)

theorem hasInfix_iff {text needle : Text} : text.hasInfix needle = true ↔ needle <:+: text := by
  induction text with
  | nil => simp [hasInfix]
  | cons c rest ih =>
    rw [hasInfix, Bool.or_eq_true, ih, List.isPrefixOf_iff_prefix, List.infix_cons_iff]

theorem hasInfix_eq_false_of_infix {text part needle : Text} (inside : part <:+: text)
    (absent : text.hasInfix needle = false) : part.hasInfix needle = false := by
  rw [Bool.eq_false_iff, ne_eq, hasInfix_iff] at absent ⊢
  exact fun present => absent (present.trans inside)

/-! ## What stands behind a statement -/

/-- Blanks and then a slash. -/
def ToSlash (tail : Text) : Prop :=
  ∃ gap rest : Text, (∀ c ∈ gap, isBlank c = true) ∧ tail = gap ++ '/' :: rest

namespace ToSlash

variable {tail : Text}

theorem trimStart_eq (behind : ToSlash tail) : ∃ rest, tail.trimStart = '/' :: rest := by
  obtain ⟨gap, rest, blank, rfl⟩ := behind
  exact ⟨rest, trimStart_blanks_append blank _⟩

theorem begins (behind : ToSlash tail) :
    ∃ c rest, tail = c :: rest ∧ (c = '/' ∨ isBlank c = true) := by
  obtain ⟨gap, rest, blank, rfl⟩ := behind
  cases gap with
  | nil => exact ⟨'/', rest, rfl, .inl rfl⟩
  | cons c others => exact ⟨c, _, rfl, .inr (blank c List.mem_cons_self)⟩

/-- A class of characters that a stretch behind which a slash follows does not go past. -/
structure Stops (inClass : Char → Bool) : Prop where
  slash : inClass '/' = false
  blanks : ∀ c, isBlank c = true → inClass c = false

theorem takeWhile_append {inClass : Char → Bool} (stops : Stops inClass) (behind : ToSlash tail)
    (text : Text) : (text ++ tail).takeWhile inClass = text.takeWhile inClass := by
  obtain ⟨c, rest, rfl, head⟩ := behind.begins
  have outside : inClass c = false := by
    rcases head with rfl | blank
    · exact stops.slash
    · exact stops.blanks c blank
  exact takeWhile_append_of_head (by simp [outside]) text

theorem dropWhile_append {inClass : Char → Bool} (stops : Stops inClass) (behind : ToSlash tail)
    (text : Text) : (text ++ tail).dropWhile inClass = text.dropWhile inClass ++ tail := by
  rw [← takeWhile_append_eq_iff]
  exact takeWhile_append stops behind text

/-- Nothing without a slash goes beyond the blanks behind a text. -/
theorem prefix_append {word text : Text} (behind : ToSlash tail) (free : '/' ∉ word)
    (begins : word <+: text ++ tail) :
    word <+: text ∨ ∃ blanks : Text, blanks ≠ [] ∧ (∀ c ∈ blanks, isBlank c = true) ∧
      word = text ++ blanks := by
  obtain ⟨after, whole⟩ := begins
  rcases List.append_eq_append_iff.mp whole with ⟨rest, split, -⟩ | ⟨more, split, tailSplit⟩
  · exact .inl ⟨rest, split.symm⟩
  by_cases nothing : more = []
  · rw [split, nothing, List.append_nil]
    exact .inl (List.prefix_refl text)
  refine .inr ⟨more, nothing, ?_, split⟩
  obtain ⟨gap, rest, blank, rfl⟩ := behind
  -- The slash would be in the word if the word went beyond the blanks.
  rcases List.append_eq_append_iff.mp tailSplit with
    ⟨beyond, splitBeyond, slashed⟩ | ⟨left, inside, -⟩
  · have nothing : beyond = [] := by
      cases beyond with
      | nil => rfl
      | cons c others =>
        obtain ⟨rfl, -⟩ := List.cons.inj slashed
        exact absurd (by rw [split, splitBeyond]; simp) free
    intro c member
    rw [splitBeyond, nothing, List.append_nil] at member
    exact blank c member
  · intro c member
    exact blank c (by rw [inside]; exact List.mem_append_left _ member)

theorem startsWith_append_of {word text : Text} (behind : ToSlash tail) (free : '/' ∉ word)
    (within : ∀ blanks : Text, blanks ≠ [] → (∀ c ∈ blanks, isBlank c = true) →
      word ≠ text ++ blanks) :
    (text ++ tail).startsWith word = text.startsWith word := by
  rw [Bool.eq_iff_iff, startsWith, startsWith, List.isPrefixOf_iff_prefix,
    List.isPrefixOf_iff_prefix]
  refine ⟨?_, fun begins => begins.trans (List.prefix_append text tail)⟩
  intro begins
  rcases behind.prefix_append free begins with here | ⟨blanks, nonempty, blank, same⟩
  · exact here
  · exact absurd same (within blanks nonempty blank)

private theorem ne_append_blanks {word blanks : Text} (ends : word.getLast?.any isBlank = false)
    (nonempty : blanks ≠ []) (blank : ∀ c ∈ blanks, isBlank c = true) (text : Text) :
    word ≠ text ++ blanks := by
  rcases List.eq_nil_or_concat blanks with nothing | ⟨before, last, rfl⟩
  · exact absurd nothing nonempty
  rintro rfl
  rw [List.concat_eq_append, ← List.append_assoc, List.getLast?_concat, Option.any_some,
    blank last (by simp)] at ends
  cases ends

/-- Whether a word begins a text does not depend on the comment behind the text if the word has no
slash and does not end in a blank. -/
theorem startsWith_append {word : Text} (behind : ToSlash tail) (free : '/' ∉ word)
    (ends : word.getLast?.any isBlank = false) (text : Text) :
    (text ++ tail).startsWith word = text.startsWith word :=
  behind.startsWith_append_of free fun _ nonempty blank => ne_append_blanks ends nonempty blank text

/-- The same holds of a word and one blank, except for the text that is the word. -/
theorem startsWith_append_spaced {word text : Text} (behind : ToSlash tail) (free : '/' ∉ word)
    (ends : word.getLast?.any isBlank = false) (other : text ≠ word) :
    (text ++ tail).startsWith (word ++ [' ']) = text.startsWith (word ++ [' ']) := by
  refine behind.startsWith_append_of (by simp [free]) ?_
  intro blanks some blank same
  rcases List.eq_nil_or_concat blanks with nothing | ⟨before, last, rfl⟩
  · exact some nothing
  rw [List.concat_eq_append, ← List.append_assoc] at same
  obtain ⟨shorter, -⟩ := List.append_inj' same rfl
  by_cases nothing : before = []
  · exact other (by rw [shorter, nothing, List.append_nil])
  · exact ne_append_blanks ends nothing (fun c member => blank c (by simp [member])) text shorter

end ToSlash

/-! ## Words -/

/-- Of two texts in a row the last stretch of the first and the first stretch of the second grow
together. -/
theorem splitOnP_append (separates : Char → Bool) (left : Text) :
    ∃ before last, left.splitOnP separates = before ++ [last] ∧
      ∀ {right first others}, right.splitOnP separates = first :: others →
        (left ++ right).splitOnP separates = before ++ (last ++ first) :: others := by
  induction left with
  | nil => exact ⟨[], [], rfl, id⟩
  | cons c rest ih =>
    obtain ⟨before, last, alone, whole⟩ := ih
    cases inside : separates c with
    | true =>
      refine ⟨[] :: before, last, ?_, fun split => ?_⟩
      · rw [splitOnP_cons_separator inside, alone, List.cons_append]
      · rw [List.cons_append, splitOnP_cons_separator inside, whole split, List.cons_append]
    | false =>
      cases before with
      | nil =>
        exact ⟨[], c :: last, splitOnP_cons_of_inside inside alone,
          fun split => splitOnP_cons_of_inside inside (whole split)⟩
      | cons head middle =>
        exact ⟨(c :: head) :: middle, last, splitOnP_cons_of_inside inside alone,
          fun split => splitOnP_cons_of_inside inside (whole split)⟩

/-- What holds no separator lies within one stretch. -/
theorem infix_iff_exists_piece {separates : Char → Bool} {needle text : Text}
    (inside : ∀ c ∈ needle, separates c = false) :
    needle <:+: text ↔ ∃ stretch ∈ text.splitOnP separates, needle <:+: stretch := by
  constructor
  · rintro ⟨before, behind, rfl⟩
    obtain ⟨front, last, -, grow⟩ := splitOnP_append separates before
    obtain ⟨first, others, split⟩ := exists_splitOnP separates behind
    have whole := grow (splitOnP_append_of_inside inside split)
    rw [List.append_assoc, whole]
    refine ⟨last ++ (needle ++ first), List.mem_append_right _ List.mem_cons_self, last, first, ?_⟩
    rw [List.append_assoc]
  · rintro ⟨stretch, member, within⟩
    exact within.trans (isInfix_of_mem_splitOnP member)

/-- The first stretch of a comment begins with its slashes. -/
theorem splitOnP_slashes (remark : Text) : ∃ first others,
    List.splitOnP isBlank ('/' :: '/' :: remark) = ('/' :: '/' :: first) :: others := by
  obtain ⟨first, others, split⟩ := exists_splitOnP isBlank remark
  have slash : isBlank '/' = false := by decide
  exact ⟨first, others, splitOnP_cons_of_inside slash (splitOnP_cons_of_inside slash split)⟩

/-- The first word of a text that does not begin with a blank ends before its first blank. -/
theorem headD_words {text : Text} (begins : ∃ c rest, text = c :: rest ∧ isBlank c = false) :
    text.words.headD [] = text.takeWhile (!isBlank ·) := by
  have nonempty : text.takeWhile (!isBlank ·) ≠ [] := by
    obtain ⟨c, rest, rfl, first⟩ := begins
    simp [first]
  have inside : ∀ c ∈ text.takeWhile (!isBlank ·), isBlank c = false := by
    intro c member
    simpa using List.all_eq_true.mp List.all_takeWhile c member
  have stops : text.dropWhile (!isBlank ·) = [] ∨
      ∃ c rest, text.dropWhile (!isBlank ·) = c :: rest ∧ isBlank c = true := by
    have head := List.head?_dropWhile_not (!isBlank ·) text
    cases split : text.dropWhile (!isBlank ·) with
    | nil => exact .inl rfl
    | cons c rest =>
      rw [split] at head
      exact .inr ⟨c, rest, rfl, by simpa using head⟩
  have split := runs_append_of_inside nonempty inside stops
  rw [List.takeWhile_append_dropWhile] at split
  rw [words, split, List.headD_cons]

end PseudoLint.Text
