import PseudoLint.Text.Blank

/-! # Stretches between separators

Splitting a text is determined by one equation: a separator in the middle splits the text on its
left and the text on its right apart. Joining texts without separators and splitting the result is
the identity, and blanks around a text do not change its runs if blanks are separators.
-/

namespace PseudoLint.Text

variable {separates : Char → Bool}

theorem exists_splitOnP (separates : Char → Bool) (text : Text) :
    ∃ first others, text.splitOnP separates = first :: others :=
  List.exists_cons_of_ne_nil (List.splitOnP_ne_nil separates text)

theorem splitOnP_cons_separator {c : Char} (between : separates c = true) (rest : Text) :
    (c :: rest).splitOnP separates = [] :: rest.splitOnP separates := by
  rw [List.splitOnP_cons_eq_if_modifyHead, if_pos between]

theorem splitOnP_cons_of_inside {c : Char} {rest first : Text} {others : List Text}
    (inside : separates c = false) (split : rest.splitOnP separates = first :: others) :
    (c :: rest).splitOnP separates = (c :: first) :: others := by
  rw [List.splitOnP_cons_eq_if_modifyHead, if_neg (Bool.not_eq_true _ ▸ inside), split,
    List.modifyHead_cons]

/-- A text without separators in front lengthens the first stretch. -/
theorem splitOnP_append_of_inside {left right first : Text} {others : List Text}
    (inside : ∀ c ∈ left, separates c = false)
    (split : right.splitOnP separates = first :: others) :
    (left ++ right).splitOnP separates = (left ++ first) :: others := by
  induction left with
  | nil => exact split
  | cons c rest ih =>
    have tail := ih fun d member => inside d (List.mem_cons_of_mem _ member)
    exact splitOnP_cons_of_inside (inside c List.mem_cons_self) tail

/-- A stretch holds characters of the text, and none of them separates. -/
theorem mem_of_mem_splitOnP {text piece : Text} {c : Char}
    (stretch : piece ∈ text.splitOnP separates) (member : c ∈ piece) :
    c ∈ text ∧ separates c = false := by
  induction text generalizing piece with
  | nil =>
    rw [List.mem_singleton.mp stretch] at member
    cases member
  | cons d rest ih =>
    cases inside : separates d with
    | true =>
      rw [splitOnP_cons_separator inside] at stretch
      rcases List.mem_cons.mp stretch with rfl | later
      · cases member
      · obtain ⟨present, apart⟩ := ih later member
        exact ⟨List.mem_cons_of_mem _ present, apart⟩
    | false =>
      obtain ⟨first, others, split⟩ := exists_splitOnP separates rest
      rw [splitOnP_cons_of_inside inside split] at stretch
      rcases List.mem_cons.mp stretch with rfl | later
      · rcases List.mem_cons.mp member with rfl | later
        · exact ⟨List.mem_cons_self, inside⟩
        · obtain ⟨present, apart⟩ := ih (split ▸ List.mem_cons_self) later
          exact ⟨List.mem_cons_of_mem _ present, apart⟩
      · obtain ⟨present, apart⟩ := ih (split ▸ List.mem_cons_of_mem _ later) member
        exact ⟨List.mem_cons_of_mem _ present, apart⟩

theorem isPrefix_of_splitOnP {text first : Text} {others : List Text}
    (split : text.splitOnP separates = first :: others) : first <+: text := by
  induction text generalizing first others with
  | nil =>
    obtain ⟨rfl, -⟩ := List.cons.inj split
    exact List.prefix_refl []
  | cons c rest ih =>
    cases separator : separates c with
    | true =>
      rw [splitOnP_cons_separator separator] at split
      obtain ⟨rfl, -⟩ := List.cons.inj split
      exact List.nil_prefix
    | false =>
      obtain ⟨next, more, apart⟩ := exists_splitOnP separates rest
      rw [splitOnP_cons_of_inside separator apart] at split
      obtain ⟨rfl, -⟩ := List.cons.inj split
      exact List.cons_prefix_cons.mpr ⟨rfl, ih apart⟩

theorem isInfix_of_mem_splitOnP {text stretch : Text} (member : stretch ∈ text.splitOnP separates) :
    stretch <:+: text := by
  induction text with
  | nil =>
    obtain rfl := List.mem_singleton.mp member
    exact List.infix_refl []
  | cons c rest ih =>
    cases separator : separates c with
    | true =>
      rw [splitOnP_cons_separator separator] at member
      rcases List.mem_cons.mp member with rfl | later
      · exact List.nil_infix
      · exact List.infix_cons (ih later)
    | false =>
      obtain ⟨first, others, apart⟩ := exists_splitOnP separates rest
      have whole := splitOnP_cons_of_inside separator apart
      rw [whole] at member
      rcases List.mem_cons.mp member with rfl | later
      · exact (isPrefix_of_splitOnP whole).isInfix
      · exact List.infix_cons (ih (apart ▸ List.mem_cons_of_mem _ later))

/-- Replacing single characters keeps the stretches apart if the separators stay and no other
character brings one in. -/
theorem splitOnP_flatMap {image : Char → Text}
    (between : ∀ c, separates c = true → image c = [c])
    (inside : ∀ c, separates c = false → ∀ d ∈ image c, separates d = false) (text : Text) :
    (text.flatMap image).splitOnP separates = (text.splitOnP separates).map (·.flatMap image) := by
  induction text with
  | nil => rfl
  | cons c rest ih =>
    rw [List.flatMap_cons]
    cases separator : separates c with
    | true =>
      rw [between c separator, List.singleton_append, splitOnP_cons_separator separator,
        splitOnP_cons_separator separator, ih, List.map_cons, List.flatMap_nil]
    | false =>
      obtain ⟨first, others, split⟩ := exists_splitOnP separates rest
      rw [split, List.map_cons] at ih
      rw [splitOnP_append_of_inside (inside c separator) ih,
        splitOnP_cons_of_inside separator split, List.map_cons, List.flatMap_cons]

theorem not_mem_of_mem_splitOn {separator : Char} {text piece : Text}
    (stretch : piece ∈ text.splitOn separator) : separator ∉ piece := by
  intro member
  have apart := (mem_of_mem_splitOnP stretch member).2
  rw [beq_self_eq_true] at apart
  cases apart

theorem splitOn_append_of_free {separator : Char} {left right first : Text} {others : List Text}
    (free : separator ∉ left) (apart : right.splitOn separator = first :: others) :
    (left ++ right).splitOn separator = (left ++ first) :: others := by
  apply splitOnP_append_of_inside _ apart
  intro c present
  exact beq_false_of_ne fun same => free (same ▸ present)

/-- Splitting undoes joining up to what is put behind each separator. -/
theorem splitOn_join_padded {separator : Char} {padding first : Text} {rest : List Text}
    (padded : separator ∉ padding) (free : ∀ text ∈ first :: rest, separator ∉ text) :
    (join (separator :: padding) (first :: rest)).splitOn separator =
      first :: rest.map (padding ++ ·) := by
  unfold join
  have alone := free first List.mem_cons_self
  induction rest generalizing first with
  | nil => rw [List.intercalate_singleton, List.splitOn_eq_singleton alone, List.map_nil]
  | cons second others ih =>
    have within := fun text member => free text (List.mem_cons_of_mem _ member)
    have later := ih within (within second List.mem_cons_self)
    rw [List.intercalate_cons_cons, List.append_assoc, List.cons_append,
      List.splitOn_append_cons_self_of_not_mem alone, splitOn_append_of_free padded later,
      List.map_cons]

theorem not_mem_join {c : Char} {separator : Text} {texts : List Text} (apart : c ∉ separator)
    (free : ∀ text ∈ texts, c ∉ text) : c ∉ join separator texts := by
  unfold join
  induction texts with
  | nil => exact List.not_mem_nil
  | cons first rest ih =>
    have here := free first List.mem_cons_self
    cases rest with
    | nil => rwa [List.intercalate_singleton]
    | cons second others =>
      have later := ih fun text member => free text (List.mem_cons_of_mem _ member)
      rw [List.intercalate_cons_cons, List.mem_append, List.mem_append]
      rintro ((inFirst | between) | behind)
      · exact here inFirst
      · exact apart between
      · exact later behind

/-- A text is cut at its first separator. -/
theorem cut_append_cons {separator : Char} {left : Text} (free : separator ∉ left) (right : Text) :
    cut separator (left ++ separator :: right) = (left, some right) := by
  induction left with
  | nil => simp [cut]
  | cons c rest ih =>
    have other : (c == separator) = false :=
      beq_false_of_ne fun same => free (same ▸ List.mem_cons_self)
    have later := ih fun member => free (List.mem_cons_of_mem _ member)
    simp only [List.cons_append, cut, other, Bool.false_eq_true, ↓reduceIte, later]

/-- A text without the separator is found at the start only in front of the separator. -/
theorem startsWith_append_cons {separator : Char} {start : Text} (free : separator ∉ start)
    (left right : Text) :
    startsWith (left ++ separator :: right) start = left.startsWith start := by
  rw [Bool.eq_iff_iff, startsWith, startsWith, List.isPrefixOf_iff_prefix,
    List.isPrefixOf_iff_prefix]
  constructor
  · rintro ⟨behind, split⟩
    rcases List.append_eq_append_iff.mp split with ⟨rest, whole, -⟩ | ⟨more, whole, spaced⟩
    · exact ⟨rest, whole.symm⟩
    · cases more with
      | nil => exact ⟨[], by rw [whole, List.append_nil, List.append_nil]⟩
      | cons c more =>
        obtain ⟨rfl, -⟩ := List.cons.inj spaced
        exact absurd (by rw [whole]; simp) free
  · exact fun within => within.trans (List.prefix_append ..)

/-- Texts that are equal around their first separators are equal on both sides. -/
theorem append_cons_inj {separator : Char} {left right other rest : Text} (free : separator ∉ left)
    (otherFree : separator ∉ other)
    (same : left ++ separator :: right = other ++ separator :: rest) :
    left = other ∧ right = rest := by
  have cuts := congrArg (cut separator) same
  rw [cut_append_cons free, cut_append_cons otherFree] at cuts
  exact ⟨congrArg Prod.fst cuts, Option.some.inj (congrArg Prod.snd cuts)⟩

/-- Texts that are equal around their last separators are equal on both sides. -/
theorem append_cons_inj_last {separator : Char} {left right other rest : Text}
    (free : separator ∉ right) (otherFree : separator ∉ rest)
    (same : left ++ separator :: right = other ++ separator :: rest) :
    left = other ∧ right = rest := by
  have reversed := congrArg List.reverse same
  simp only [List.reverse_append, List.reverse_cons, List.append_assoc,
    List.singleton_append] at reversed
  obtain ⟨behind, before⟩ := append_cons_inj (fun member => free (List.mem_reverse.mp member))
    (fun member => otherFree (List.mem_reverse.mp member)) reversed
  exact ⟨List.reverse_inj.mp before, List.reverse_inj.mp behind⟩

/-- A text with a single separator is split around it in one way only. -/
theorem append_cons_inj_single {separator : Char} {left right other rest : Text}
    (before : separator ∉ left) (behind : separator ∉ right)
    (same : left ++ separator :: right = other ++ separator :: rest) :
    left = other ∧ right = rest := by
  have counts := congrArg (List.count separator) same
  rw [List.count_append, List.count_append, List.count_cons_self, List.count_cons_self,
    List.count_eq_zero.mpr before, List.count_eq_zero.mpr behind] at counts
  have otherFree : separator ∉ other := by
    apply List.count_eq_zero.mp
    omega
  exact append_cons_inj before otherFree same

/-! ## Runs -/

@[simp] theorem runs_nil (separates : Char → Bool) : runs separates [] = [] := rfl

theorem runs_append_cons {c : Char} (between : separates c = true) (left right : Text) :
    runs separates (left ++ c :: right) = runs separates left ++ runs separates right := by
  simp only [runs, List.splitOnP_append_cons _ _ between, List.filter_append]

theorem runs_cons_separator {c : Char} (between : separates c = true) (rest : Text) :
    runs separates (c :: rest) = runs separates rest :=
  runs_append_cons between [] rest

theorem runs_of_inside {text : Text} (nonempty : text ≠ [])
    (inside : ∀ c ∈ text, separates c = false) : runs separates text = [text] := by
  simp [runs, List.splitOnP_eq_singleton inside, nonempty]

/-- A run at the start of a text, as far as the next separator. -/
theorem runs_append_of_inside {left right : Text} (nonempty : left ≠ [])
    (inside : ∀ c ∈ left, separates c = false)
    (stops : right = [] ∨ ∃ c rest, right = c :: rest ∧ separates c = true) :
    runs separates (left ++ right) = left :: runs separates right := by
  rcases stops with rfl | ⟨c, rest, rfl, between⟩
  · rw [List.append_nil, runs_of_inside nonempty inside, runs_nil]
  · rw [runs_append_cons between, runs_of_inside nonempty inside, runs_cons_separator between,
      List.singleton_append]

/-- A text that begins with a character inside a run has a first run that begins with it. -/
theorem runs_cons_of_inside {c : Char} (inside : separates c = false) (rest : Text) :
    ∃ first others, runs separates (c :: rest) = (c :: first) :: others := by
  obtain ⟨first, others, split⟩ := exists_splitOnP separates rest
  refine ⟨first, others.filter (!·.isEmpty), ?_⟩
  rw [runs, splitOnP_cons_of_inside inside split]
  rfl

theorem runs_eq_nil {text : Text} (between : ∀ c ∈ text, separates c = true) :
    runs separates text = [] := by
  induction text with
  | nil => rfl
  | cons c rest ih =>
    rw [runs_cons_separator (between c List.mem_cons_self)]
    exact ih fun d member => between d (List.mem_cons_of_mem _ member)

theorem runs_append_separators {text ending : Text} (between : ∀ c ∈ ending, separates c = true) :
    runs separates (text ++ ending) = runs separates text := by
  cases ending with
  | nil => rw [List.append_nil]
  | cons c rest =>
    have nothing : runs separates rest = [] :=
      runs_eq_nil fun d member => between d (List.mem_cons_of_mem _ member)
    rw [runs_append_cons (between c List.mem_cons_self), nothing, List.append_nil]

theorem runs_separators_append {beginning : Text}
    (between : ∀ c ∈ beginning, separates c = true) (text : Text) :
    runs separates (beginning ++ text) = runs separates text := by
  induction beginning with
  | nil => rfl
  | cons c rest ih =>
    rw [List.cons_append, runs_cons_separator (between c List.mem_cons_self)]
    exact ih fun d member => between d (List.mem_cons_of_mem _ member)

/-! ## Up to a character -/

section

variable {stop : Char} {left : Text}

private theorem bne_of_mem (free : stop ∉ left) : ∀ c ∈ left, (c != stop) = true :=
  fun _ member => bne_iff_ne.mpr fun same => free (same ▸ member)

theorem takeWhile_append_of_free (free : stop ∉ left) (right : Text) :
    (left ++ right).takeWhile (· != stop) = left ++ right.takeWhile (· != stop) :=
  List.takeWhile_append_of_pos (bne_of_mem free)

theorem dropWhile_append_of_free (free : stop ∉ left) (right : Text) :
    (left ++ right).dropWhile (· != stop) = right.dropWhile (· != stop) :=
  List.dropWhile_append_of_pos (bne_of_mem free)

theorem takeWhile_of_free (free : stop ∉ left) : left.takeWhile (· != stop) = left := by
  have whole := takeWhile_append_of_free free []
  rwa [List.append_nil, List.takeWhile_nil, List.append_nil] at whole

theorem dropWhile_of_free (free : stop ∉ left) : left.dropWhile (· != stop) = [] := by
  have whole := dropWhile_append_of_free free []
  rwa [List.append_nil] at whole

end

theorem not_mem_takeWhile (stop : Char) (text : Text) : stop ∉ text.takeWhile (· != stop) := by
  intro member
  have other := List.all_eq_true.mp List.all_takeWhile stop member
  rw [bne_self_eq_false] at other
  cases other

/-! ## Trimming -/

/-- Trimming takes blanks away on both sides and nothing else. -/
theorem exists_trim (text : Text) : ∃ beginning ending : Text,
    (∀ c ∈ beginning, isBlank c = true) ∧ (∀ c ∈ ending, isBlank c = true) ∧
      text = beginning ++ (text.trim ++ ending) := by
  refine ⟨text.takeWhile isBlank, (text.trimStart.reverse.takeWhile isBlank).reverse, ?_, ?_, ?_⟩
  · exact List.all_eq_true.mp List.all_takeWhile
  · intro c member
    exact List.all_eq_true.mp List.all_takeWhile c (List.mem_reverse.mp member)
  · rw [trim, trimEnd, ← List.reverse_append, List.takeWhile_append_dropWhile, List.reverse_reverse,
      trimStart, List.takeWhile_append_dropWhile]

theorem trim_isInfix (text : Text) : text.trim <:+: text := by
  obtain ⟨beginning, ending, -, -, split⟩ := exists_trim text
  exact ⟨beginning, ending, by rw [List.append_assoc]; exact split.symm⟩

theorem mem_of_mem_trim {text : Text} {c : Char} (member : c ∈ text.trim) : c ∈ text :=
  (trim_isInfix text).subset member

/-- Blanks around a text do not change its runs if blanks are separators. -/
theorem runs_trim (blanks : ∀ c, isBlank c = true → separates c = true) (text : Text) :
    runs separates text.trim = runs separates text := by
  obtain ⟨beginning, ending, before, behind, split⟩ := exists_trim text
  have trimmed := runs_separators_append (fun c member => blanks c (before c member))
    (text.trim ++ ending)
  rw [runs_append_separators fun c member => blanks c (behind c member), ← split] at trimmed
  exact trimmed.symm

theorem trimStart_of_solid {text rest : Text} {c : Char} (begins : text = c :: rest)
    (solid : isBlank c = false) : text.trimStart = text := by
  rw [begins, trimStart, List.dropWhile_cons, solid]
  rfl

theorem trimStart_blanks_append {beginning : Text}
    (blanks : ∀ c ∈ beginning, isBlank c = true) (text : Text) :
    (beginning ++ text).trimStart = text.trimStart := by
  induction beginning with
  | nil => rfl
  | cons c rest ih =>
    have here := blanks c List.mem_cons_self
    rw [trimStart, List.cons_append, List.dropWhile_cons, here]
    exact ih fun d member => blanks d (List.mem_cons_of_mem _ member)

theorem trimEnd_of_solid {text before : Text} {c : Char} (ends : text = before ++ [c])
    (solid : isBlank c = false) : text.trimEnd = text := by
  rw [ends, trimEnd, List.reverse_append, List.reverse_singleton, List.singleton_append,
    List.dropWhile_cons, solid]
  simp

theorem trimEnd_append_blanks {text ending : Text} (blanks : ∀ c ∈ ending, isBlank c = true) :
    (text ++ ending).trimEnd = text.trimEnd := by
  have reversed : ∀ c ∈ ending.reverse, isBlank c = true :=
    fun c member => blanks c (List.mem_reverse.mp member)
  have dropped := trimStart_blanks_append reversed text.reverse
  simp only [trimStart] at dropped
  rw [trimEnd, List.reverse_append, dropped, trimEnd]

end PseudoLint.Text
