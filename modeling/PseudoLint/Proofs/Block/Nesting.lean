import PseudoLint.Keyword

/-! # Well-nested words

The words that open and close blocks are well nested if a grammar generates them: nothing, or an
opening word, well-nested words, the closing word that belongs to it, and well-nested words again.
`read` is the stack machine for this grammar. `wellNested_iff_read` says that the two agree, and
`count_read` counts: at every point of a reading, each kind of block has been opened as often as it
was closed and is still open.
-/

namespace PseudoLint.Nesting

/-- The words that the grammar of blocks generates. -/
inductive WellNested : List Text → Prop
  | nil : WellNested []
  | block {opener closer : Text} {inner rest : List Text}
      (closes : Keyword.closer? opener = some closer) (inside : WellNested inner)
      (behind : WellNested rest) : WellNested (opener :: (inner ++ closer :: rest))

/-- The opening words that remain open after some words, innermost first. There is no answer if a
closing word does not belong to the innermost open block. -/
def read : (stack : List Text) → (words : List Text) → Option (List Text)
  | stack, [] => some stack
  | stack, word :: rest =>
    if Keyword.isOpener word then read (word :: stack) rest
    else
      match stack with
      | [] => none
      | opener :: outer =>
        if Keyword.closer? opener = some word then read outer rest else none

/-! ## The table of blocks -/

theorem mem_blocks_of_closer? {opener closer : Text}
    (closes : Keyword.closer? opener = some closer) : (opener, closer) ∈ Keyword.blocks := by
  obtain ⟨before, later, split, -⟩ := List.lookup_eq_some_iff.mp closes
  rw [split]
  exact List.mem_append_right _ List.mem_cons_self

theorem isOpener_of_closer? {opener closer : Text} (closes : Keyword.closer? opener = some closer) :
    Keyword.isOpener opener = true :=
  Option.isSome_iff_exists.mpr ⟨closer, closes⟩

theorem isCloser_of_closer? {opener closer : Text} (closes : Keyword.closer? opener = some closer) :
    Keyword.isCloser closer = true :=
  List.contains_iff_mem.mpr (List.mem_map.mpr ⟨(opener, closer), mem_blocks_of_closer? closes, rfl⟩)

/-- No word both opens and closes a block. -/
theorem not_isOpener_of_isCloser {word : Text} (closes : Keyword.isCloser word = true) :
    Keyword.isOpener word = false := by
  have apart : ∀ closer ∈ Keyword.blocks.map (·.2), Keyword.isOpener closer = false := by
    decide
  exact apart word (List.contains_iff_mem.mp closes)

/-- Each closing word belongs to one opening word. -/
theorem closer?_injective {first second closer : Text}
    (firstCloses : Keyword.closer? first = some closer)
    (secondCloses : Keyword.closer? second = some closer) : first = second := by
  have apart : ∀ a ∈ Keyword.blocks, ∀ b ∈ Keyword.blocks, a.2 = b.2 → a.1 = b.1 := by
    decide
  exact apart _ (mem_blocks_of_closer? firstCloses) _ (mem_blocks_of_closer? secondCloses) rfl

/-! ## Reading -/

theorem read_opener {word : Text} (opens : Keyword.isOpener word = true) (stack rest : List Text) :
    read stack (word :: rest) = read (word :: stack) rest := by
  simp only [read, opens, ↓reduceIte]

theorem read_closer {opener closer : Text} (closes : Keyword.closer? opener = some closer)
    (outer rest : List Text) : read (opener :: outer) (closer :: rest) = read outer rest := by
  have plain := not_isOpener_of_isCloser (isCloser_of_closer? closes)
  simp only [read, plain, closes, Bool.false_eq_true, ↓reduceIte]

theorem read_append (stack first second : List Text) :
    read stack (first ++ second) = (read stack first).bind fun middle => read middle second := by
  induction first generalizing stack with
  | nil => rfl
  | cons word rest ih =>
    simp only [List.cons_append, read]
    split
    · exact ih _
    · cases stack with
      | nil => rfl
      | cons opener outer =>
        dsimp only
        split
        · exact ih _
        · rfl

/-- A word that takes a block off the stack is its closing word. -/
theorem read_cons_eq_some {stack rest final : List Text} {word : Text}
    (success : read stack (word :: rest) = some final) :
    (Keyword.isOpener word = true ∧ read (word :: stack) rest = some final) ∨
      ∃ opener outer, stack = opener :: outer ∧ Keyword.closer? opener = some word ∧
        read outer rest = some final := by
  simp only [read] at success
  split at success
  · rename_i opens
    exact .inl ⟨opens, success⟩
  · cases stack with
    | nil => cases success
    | cons opener outer =>
      dsimp only at success
      split at success
      · rename_i closes
        exact .inr ⟨opener, outer, rfl, closes, success⟩
      · cases success

/-! ## The grammar and the machine -/

theorem WellNested.append {first second : List Text} (left : WellNested first)
    (right : WellNested second) : WellNested (first ++ second) := by
  induction left with
  | nil => exact right
  | block closes inside _ _ ih =>
    rw [List.cons_append, List.append_assoc, List.cons_append]
    exact .block closes inside ih

/-- Reading well-nested words leaves any stack as it was. -/
theorem WellNested.read_eq {words : List Text} (nested : WellNested words) (stack : List Text) :
    read stack words = some stack := by
  induction nested generalizing stack with
  | nil => rfl
  | @block opener closer inner rest closes _ _ inside behind =>
    rw [read_opener (isOpener_of_closer? closes), read_append, inside, Option.bind_some,
      read_closer closes, behind]

/-- The words that close every block of a stack, with well-nested words before each closing word
and at the end. -/
def Closes : (stack : List Text) → (words : List Text) → Prop
  | [], words => WellNested words
  | opener :: outer, words =>
    ∃ inner closer rest, words = inner ++ closer :: rest ∧ Keyword.closer? opener = some closer ∧
      WellNested inner ∧ Closes outer rest

theorem Closes.append {stack first second : List Text} (nested : WellNested first)
    (closes : Closes stack second) : Closes stack (first ++ second) := by
  cases stack with
  | nil => exact WellNested.append nested closes
  | cons opener outer =>
    obtain ⟨inner, closer, rest, rfl, belongs, inside, behind⟩ := closes
    exact ⟨first ++ inner, closer, rest, (List.append_assoc ..).symm, belongs,
      nested.append inside, behind⟩

theorem closes_of_read {stack words : List Text} (success : read stack words = some []) :
    Closes stack words := by
  induction words generalizing stack with
  | nil =>
    cases success
    exact .nil
  | cons word rest ih =>
    rcases read_cons_eq_some success with ⟨-, success⟩ | ⟨opener, outer, rfl, closes, success⟩
    · -- The block that `word` opens is closed somewhere in the rest, and forms one nested piece.
      obtain ⟨inner, closer, later, rfl, closes, inside, behind⟩ := ih success
      have piece : WellNested (word :: (inner ++ [closer])) := .block closes inside .nil
      have closed := Closes.append piece behind
      rwa [List.cons_append, List.append_assoc] at closed
    · exact ⟨[], word, rest, rfl, closes, .nil, ih success⟩

/-- The stack machine accepts exactly the words that the grammar generates. -/
theorem wellNested_iff_read {words : List Text} : WellNested words ↔ read [] words = some [] :=
  ⟨fun nested => nested.read_eq [], fun success => closes_of_read success⟩

/-! ## Counting -/

/-- What was opened is what was closed together with what is still open, for each kind of block. -/
theorem count_read {opener closer : Text} (belongs : Keyword.closer? opener = some closer)
    {stack words final : List Text} (success : read stack words = some final) :
    stack.count opener + words.count opener = final.count opener + words.count closer := by
  have opens := isOpener_of_closer? belongs
  have closes := not_isOpener_of_isCloser (isCloser_of_closer? belongs)
  induction words generalizing stack with
  | nil =>
    cases success
    rfl
  | cons word rest ih =>
    rcases read_cons_eq_some success with
      ⟨wordOpens, success⟩ | ⟨other, outer, rfl, wordCloses, success⟩
    · have differs : word ≠ closer := by
        rintro rfl
        rw [closes] at wordOpens
        cases wordOpens
      have counted := ih success
      rw [List.count_cons] at counted
      rw [List.count_cons, List.count_cons_of_ne differs]
      omega
    · have counted := ih success
      have differs : word ≠ opener := by
        rintro rfl
        rw [not_isOpener_of_isCloser (isCloser_of_closer? wordCloses)] at opens
        cases opens
      rw [List.count_cons_of_ne differs]
      by_cases same : other = opener
      · subst same
        have closing : word = closer := Option.some.inj (wordCloses.symm.trans belongs)
        rw [closing, List.count_cons_self, List.count_cons_self]
        omega
      · have closing : word ≠ closer := by
          rintro rfl
          exact same (closer?_injective wordCloses belongs)
        rw [List.count_cons_of_ne same, List.count_cons_of_ne closing]
        exact counted

/-- No prefix of well-nested words closes a kind of block more often than it opens it. -/
theorem count_closer_le {opener closer : Text} (belongs : Keyword.closer? opener = some closer)
    {first second : List Text} (nested : WellNested (first ++ second)) :
    first.count closer ≤ first.count opener := by
  have success := nested.read_eq []
  rw [read_append] at success
  obtain ⟨middle, reached, -⟩ := Option.bind_eq_some_iff.mp success
  have counted := count_read belongs reached
  rw [List.count_nil] at counted
  omega

end PseudoLint.Nesting
