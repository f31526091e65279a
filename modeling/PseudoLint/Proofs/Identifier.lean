import PseudoLint.Form
import PseudoLint.Proofs.Text.Classes
import PseudoLint.Proofs.Text.Pieces

/-! # Names and words found in a line

Every way in which a rule finds a name yields a name: an ASCII letter or underscore followed by
ASCII letters, digits and underscores. So the names that messages quote contain no quotes. The names
of a line are among its maximal runs of word characters, and a word stands between word boundaries
exactly if it is one of these runs.
-/

namespace PseudoLint

theorem isNameChar_of_mem {name : Text} (valid : isName name = true) {c : Char}
    (member : c ∈ name) : isNameChar c = true := by
  cases name with
  | nil => cases member
  | cons first rest =>
    simp only [isName, Bool.and_eq_true, List.all_eq_true] at valid
    rcases List.mem_cons.mp member with rfl | later
    · exact isNameChar_of_isNameStart valid.1
    · exact valid.2 c later

/-- A name contains no character that cannot stand in a name. -/
theorem not_mem_of_isName {name : Text} {c : Char} (valid : isName name = true)
    (outside : isNameChar c = false) : c ∉ name := by
  intro member
  rw [isNameChar_of_mem valid member] at outside
  cases outside

/-- A strict name is a name. -/
theorem isName_of_isStrictName {name : Text} (strict : isStrictName name = true) :
    isName name = true := by
  cases name with
  | nil => cases strict
  | cons c rest =>
    simp only [isStrictName, Bool.and_eq_true] at strict
    simp only [isName, isNameStart, strict.1, strict.2, Bool.true_or, Bool.and_self]

theorem isName_takeWhile {c : Char} (starts : isNameStart c = true) (rest : Text) :
    isName (c :: rest.takeWhile isNameChar) = true := by
  simp only [isName, starts, Bool.true_and]
  exact List.all_takeWhile

theorem isName_of_mem_nameUsesAfter {left text : Text} {use : NameUse}
    (member : use ∈ nameUsesAfter left text) : isName use.name = true := by
  induction text generalizing left with
  | nil => cases member
  | cons c rest ih =>
    simp only [nameUsesAfter] at member
    split at member
    · rename_i starts
      have first : isNameStart c = true := (Bool.and_eq_true_iff.mp starts).1
      split at member
      · exact ih member
      · rcases List.mem_cons.mp member with rfl | later
        · exact isName_takeWhile first rest
        · exact ih later
    · exact ih member

theorem isName_of_mem_nameUses {text : Text} {use : NameUse} (member : use ∈ nameUses text) :
    isName use.name = true :=
  isName_of_mem_nameUsesAfter member

theorem isName_of_mem_names {text name : Text} (member : name ∈ names text) :
    isName name = true := by
  obtain ⟨use, found, rfl⟩ := List.mem_map.mp member
  exact isName_of_mem_nameUses found

namespace Form

theorem isName_of_name {text found rest : Text} (read : name text = some (found, rest)) :
    isName found = true := by
  cases text with
  | nil => cases read
  | cons c tail =>
    simp only [name] at read
    split at read
    · rename_i starts
      cases read
      exact isName_takeWhile starts tail
    · cases read

/-- A name is read as far as it goes. -/
theorem name_append_of_isName {word rest : Text} (named : isName word = true)
    (stops : rest.takeWhile isNameChar = []) : name (word ++ rest) = some (word, rest) := by
  have behind := List.takeWhile_append_dropWhile (p := isNameChar) (l := rest)
  rw [stops, List.nil_append] at behind
  cases word with
  | nil => cases named
  | cons c letters =>
    obtain ⟨starts, inside⟩ := Bool.and_eq_true_iff.mp named
    have letter := List.all_eq_true.mp inside
    rw [List.cons_append, name, if_pos starts, List.takeWhile_append_of_pos letter,
      List.dropWhile_append_of_pos letter, stops, behind, List.append_nil]

/-- A folded name is made of characters of names and of letters that fold to them. -/
theorem chars_of_foldedName {text found rest : Text} (read : foldedName text = some (found, rest)) :
    ∀ c ∈ found, isNameChar c = true ∨ isFoldedLetter c = true := by
  cases text with
  | nil => cases read
  | cons c tail =>
    simp only [foldedName] at read
    split at read
    · rename_i starts
      cases read
      refine List.forall_mem_cons.mpr ⟨?_, fun d member => ?_⟩
      · exact (Bool.or_eq_true_iff.mp starts).imp_left isNameChar_of_isNameStart
      · exact Bool.or_eq_true_iff.mp (List.all_eq_true.mp List.all_takeWhile d member)
    · cases read

theorem isName_of_assignedName {text found : Text} (read : assignedName text = some found) :
    isName found = true := by
  simp only [assignedName, bind, Option.bind_eq_some_iff] at read
  obtain ⟨⟨word, rest⟩, named, -, -, same⟩ := read
  cases same
  exact isName_of_name named

end Form

/-! ## Names that are found -/

/-- The names of a text are found behind any other text. -/
theorem mem_nameUsesAfter_append {left before text : Text} {use : NameUse}
    (member : use ∈ nameUsesAfter (before.reverse ++ left) text) :
    use ∈ nameUsesAfter left (before ++ text) := by
  induction before generalizing left with
  | nil => exact member
  | cons c rest ih =>
    have later : use ∈ nameUsesAfter (c :: left) (rest ++ text) := by
      apply ih
      rwa [List.reverse_cons, List.append_assoc, List.singleton_append] at member
    simp only [List.cons_append, nameUsesAfter]
    split
    · split
      · exact later
      · exact List.mem_cons_of_mem _ later
    · exact later

/-- A name without word characters on its two sides is found. -/
theorem mem_nameUses {before name right : Text} (named : isName name = true)
    (starts : beginsWord before.reverse = false) (ends : beginsWord right = false) :
    ⟨before.reverse, name, right⟩ ∈ nameUses (before ++ (name ++ right)) := by
  have stops : right.takeWhile isNameChar = [] ∧ right.dropWhile isNameChar = right := by
    cases right with
    | nil => exact ⟨rfl, rfl⟩
    | cons c rest =>
      have outside : isNameChar c = false := by
        rw [Bool.eq_false_iff]
        intro inName
        have inWord : beginsWord (c :: rest) = true := isWordChar_of_isNameChar inName
        rw [inWord] at ends
        cases ends
      simp [outside]
  apply mem_nameUsesAfter_append
  rw [List.append_nil]
  cases name with
  | nil => cases named
  | cons c letters =>
    obtain ⟨first, inside⟩ := Bool.and_eq_true_iff.mp named
    have letter := List.all_eq_true.mp inside
    simp only [List.cons_append, nameUsesAfter, first, starts, Bool.not_false, Bool.and_self,
      ↓reduceIte, List.takeWhile_append_of_pos letter, List.dropWhile_append_of_pos letter, stops,
      ends, Bool.false_eq_true, List.append_nil]
    exact List.mem_cons_self

/-! ## Runs of word characters -/

theorem wordRuns_append_cons {c : Char} (between : isWordChar c = false) (left right : Text) :
    wordRuns (left ++ c :: right) = wordRuns left ++ wordRuns right := by
  unfold wordRuns
  apply Text.runs_append_cons
  rw [between, Bool.not_false]

theorem wordRuns_cons_of_not_word {c : Char} (between : isWordChar c = false) (rest : Text) :
    wordRuns (c :: rest) = wordRuns rest :=
  wordRuns_append_cons between [] rest

theorem wordRuns_of_word {word : Text} (nonempty : word ≠ [])
    (inside : ∀ c ∈ word, isWordChar c = true) : wordRuns word = [word] := by
  apply Text.runs_of_inside nonempty
  intro c member
  rw [inside c member, Bool.not_true]

theorem wordRuns_trim (text : Text) : wordRuns text.trim = wordRuns text := by
  apply Text.runs_trim
  intro c blank
  cases inWord : isWordChar c with
  | true =>
    rw [not_isBlank_of_isWordChar inWord] at blank
    cases blank
  | false => rfl

/-- What is left of a text after the word that is open at its start. -/
def afterOpenWord (inWord : Bool) (text : Text) : Text :=
  if inWord then text.dropWhile isWordChar else text

private theorem dropWhile_stops (text : Text) :
    text.dropWhile isWordChar = [] ∨
      ∃ c rest, text.dropWhile isWordChar = c :: rest ∧ isWordChar c = false := by
  have stops := List.head?_dropWhile_not isWordChar text
  cases split : text.dropWhile isWordChar with
  | nil => exact .inl rfl
  | cons c rest =>
    rw [split] at stops
    exact .inr ⟨c, rest, rfl, stops⟩

/-- A text that begins with a word character begins with a run. -/
theorem wordRuns_of_begins {text : Text} (begins : text.takeWhile isWordChar ≠ []) :
    wordRuns text = text.takeWhile isWordChar :: wordRuns (text.dropWhile isWordChar) := by
  have inside : ∀ c ∈ text.takeWhile isWordChar, (!isWordChar c) = false := by
    intro c member
    rw [List.all_eq_true.mp List.all_takeWhile c member, Bool.not_true]
  have stops : text.dropWhile isWordChar = [] ∨
      ∃ c rest, text.dropWhile isWordChar = c :: rest ∧ (!isWordChar c) = true := by
    simpa only [Bool.not_eq_true'] using dropWhile_stops text
  have split := Text.runs_append_of_inside begins inside stops
  rwa [List.takeWhile_append_dropWhile] at split

/-- After an open word, a character outside it either begins a run or separates runs. -/
theorem wordRuns_afterOpenWord_cons (inWord : Bool) (c : Char) (rest : Text) :
    wordRuns (afterOpenWord inWord (c :: rest)) =
      (if !inWord && isWordChar c then [(c :: rest).takeWhile isWordChar] else []) ++
        wordRuns (afterOpenWord (isWordChar c) rest) := by
  cases letter : isWordChar c with
  | false =>
    have skipped : afterOpenWord inWord (c :: rest) = c :: rest := by
      unfold afterOpenWord
      split
      · rw [List.dropWhile_cons, letter]
        rfl
      · rfl
    rw [skipped, wordRuns_cons_of_not_word letter, Bool.and_false]
    rfl
  | true =>
    cases inWord with
    | true => simp [afterOpenWord, letter]
    | false =>
      have begins : (c :: rest).takeWhile isWordChar ≠ [] := by simp [letter]
      have dropped : (c :: rest).dropWhile isWordChar = rest.dropWhile isWordChar := by
        rw [List.dropWhile_cons, letter]
        rfl
      simp [afterOpenWord, wordRuns_of_begins begins, dropped]

/-- A run is the one that begins here, or it is found after the word that is then open. -/
theorem mem_wordRuns_cons {inWord : Bool} {c : Char} {rest word : Text} :
    word ∈ wordRuns (afterOpenWord inWord (c :: rest)) ↔
      (inWord = false ∧ isWordChar c = true ∧ word = (c :: rest).takeWhile isWordChar) ∨
        word ∈ wordRuns (afterOpenWord (isWordChar c) rest) := by
  rw [wordRuns_afterOpenWord_cons, List.mem_append, List.mem_ite_nil_right, List.mem_singleton,
    Bool.and_eq_true, Bool.not_eq_true', and_assoc]

private theorem takeWhile_append_of_stop {word right : Text}
    (inside : ∀ c ∈ word, isWordChar c = true) (stops : beginsWord right = false) :
    (word ++ right).takeWhile isWordChar = word := by
  have nothing : right.takeWhile isWordChar = [] := by
    cases right with
    | nil => rfl
    | cons c rest =>
      have between : isWordChar c = false := stops
      simp [between]
  rw [List.takeWhile_append_of_pos inside, nothing, List.append_nil]

/-- A word stands at the start of a text, up to a word boundary, exactly if it is the run there. -/
theorem begins_with_word_iff {word text : Text} (inside : ∀ c ∈ word, isWordChar c = true) :
    (word.isPrefixOf text && !beginsWord (text.drop word.length)) = true ↔
      word = text.takeWhile isWordChar := by
  simp only [Bool.and_eq_true, Bool.not_eq_true', List.isPrefixOf_iff_prefix]
  constructor
  · rintro ⟨⟨right, rfl⟩, stops⟩
    rw [List.drop_left] at stops
    exact (takeWhile_append_of_stop inside stops).symm
  · intro same
    have split : word ++ text.dropWhile isWordChar = text := by
      rw [same, List.takeWhile_append_dropWhile]
    refine ⟨⟨_, split⟩, ?_⟩
    have after : text.drop word.length = text.dropWhile isWordChar := by
      rw [← split, List.drop_left]
      exact congrArg (List.dropWhile isWordChar) split.symm
    rw [after]
    rcases dropWhile_stops text with ends | ⟨c, rest, continues, between⟩
    · rw [ends]
      rfl
    · rw [continues]
      exact between

theorem isSome_afterWordFrom_iff {word : Text} (nonempty : word ≠ [])
    (inside : ∀ c ∈ word, isWordChar c = true) {inWord : Bool} {text : Text} :
    (afterWordFrom word inWord text).isSome = true ↔
      word ∈ wordRuns (afterOpenWord inWord text) := by
  induction text generalizing inWord with
  | nil =>
    have nothing : afterOpenWord inWord [] = [] := by
      cases inWord <;> rfl
    rw [nothing]
    simp [afterWordFrom, wordRuns]
  | cons c rest ih =>
    rw [mem_wordRuns_cons, ← ih]
    have begins :
        (word.isPrefixOf (c :: rest) && !beginsWord ((c :: rest).drop word.length)) = true ↔
          word = (c :: rest).takeWhile isWordChar := begins_with_word_iff inside
    have letter : word = (c :: rest).takeWhile isWordChar → isWordChar c = true := by
      rintro rfl
      rw [List.takeWhile_cons] at nonempty
      split at nonempty
      · assumption
      · exact absurd rfl nonempty
    simp only [afterWordFrom, Bool.and_assoc]
    cases inWord with
    | true => simp
    | false =>
      by_cases here : word = (c :: rest).takeWhile isWordChar
      · rw [begins.mpr here]
        simp [letter here, ← here]
      · rw [Bool.eq_false_iff.mpr fun found => here (begins.mp found)]
        simp [here]

/-- A word occurs between word boundaries exactly if it is one of the runs. -/
theorem hasWord_iff {word text : Text} (nonempty : word ≠ [])
    (inside : ∀ c ∈ word, isWordChar c = true) :
    hasWord word text = true ↔ word ∈ wordRuns text :=
  isSome_afterWordFrom_iff nonempty inside

/-- Where a name begins, the run is this name, or it goes on with another word character and is
none. -/
theorem filter_isName_run {c : Char} (starts : isNameStart c = true) (rest : Text) :
    [(c :: rest).takeWhile isWordChar].filter isName =
      if beginsWord (rest.dropWhile isNameChar) then [] else [c :: rest.takeWhile isNameChar] := by
  have named := isName_takeWhile starts rest
  have inside : ∀ d ∈ c :: rest.takeWhile isNameChar, isWordChar d = true :=
    fun d present => isWordChar_of_isNameChar (isNameChar_of_mem named present)
  have split : c :: rest.takeWhile isNameChar ++ rest.dropWhile isNameChar = c :: rest := by
    rw [List.cons_append, List.takeWhile_append_dropWhile]
  cases goesOn : beginsWord (rest.dropWhile isNameChar) with
  | false =>
    have whole := takeWhile_append_of_stop inside goesOn
    rw [split] at whole
    rw [whole, List.filter_cons_of_pos named]
    rfl
  | true =>
    have stops := List.head?_dropWhile_not isNameChar rest
    cases behind : rest.dropWhile isNameChar with
    | nil =>
      rw [behind] at goesOn
      cases goesOn
    | cons d more =>
      rw [behind] at goesOn stops split
      have letter : isWordChar d = true := goesOn
      have outside : isNameChar d = false := stops
      have present : d ∈ (c :: rest).takeWhile isWordChar := by
        rw [← split, List.takeWhile_append_of_pos inside, List.takeWhile_cons_of_pos letter]
        exact List.mem_append_right _ List.mem_cons_self
      have unnamed : ¬ isName ((c :: rest).takeWhile isWordChar) = true :=
        fun valid => not_mem_of_isName valid outside present
      rw [List.filter_cons_of_neg unnamed]
      rfl

theorem map_name_nameUsesAfter (left text : Text) :
    (nameUsesAfter left text).map (·.name) =
      (wordRuns (afterOpenWord (beginsWord left) text)).filter isName := by
  induction text generalizing left with
  | nil => cases beginsWord left <;> rfl
  | cons c rest ih =>
    have later : (nameUsesAfter (c :: left) rest).map (·.name) =
        (wordRuns (afterOpenWord (isWordChar c) rest)).filter isName := ih (c :: left)
    rw [wordRuns_afterOpenWord_cons, List.filter_append, ← later]
    cases starts : isNameStart c with
    | true =>
      have letter := isWordChar_of_isNameChar (isNameChar_of_isNameStart starts)
      cases inWord : beginsWord left with
      | true => simp [nameUsesAfter, inWord]
      | false =>
        simp only [nameUsesAfter, starts, inWord, letter, Bool.not_false, Bool.and_self,
          ↓reduceIte, filter_isName_run starts]
        split <;> rfl
    | false =>
      have unnamed : ((if !beginsWord left && isWordChar c then
          [(c :: rest).takeWhile isWordChar] else []).filter isName) = [] := by
        split
        · rename_i begins
          rw [List.takeWhile_cons_of_pos (Bool.and_eq_true_iff.mp begins).2]
          simp [isName, starts]
        · rfl
      rw [unnamed, nameUsesAfter, starts, Bool.false_and]
      rfl

/-- The names of a text are those of its runs of word characters that are names. -/
theorem names_eq_filter_wordRuns (text : Text) : names text = (wordRuns text).filter isName :=
  map_name_nameUsesAfter [] text

theorem mem_wordRuns_of_mem_nameUses {text : Text} {use : NameUse} (member : use ∈ nameUses text) :
    use.name ∈ wordRuns text := by
  have listed : use.name ∈ names text := List.mem_map_of_mem member
  rw [names_eq_filter_wordRuns] at listed
  exact (List.mem_filter.mp listed).1

end PseudoLint
