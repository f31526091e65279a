import PseudoLint.Config

/-! # Replacing shortcuts twice

A sign that occurs in no shortcut can be part of none, so putting it in the place of a shortcut
brings no shortcut about, neither the one that is replaced nor another. If all values of a table are
such signs, the text that an expansion leaves contains no shortcut at all
(`SignTable.hasInfix_expand`) and expanding it again changes nothing (`SignTable.expand_expand`).
The standard shortcuts are such a table.
-/

namespace PseudoLint

namespace Text

variable {old other : Text} {sign : Char}

/-- A text that a replacement leaves begins with nothing new but the sign. -/
theorem isPrefixOf_of_replaceFrom (apart : sign ∉ other) {text : Text}
    (begins : other.isPrefixOf (replaceFrom old [sign] 0 text) = true) :
    other.isPrefixOf text = true := by
  induction text generalizing other with
  | nil => exact begins
  | cons c rest ih =>
    cases other with
    | nil => rfl
    | cons d tail =>
      rw [replaceFrom] at begins
      split at begins
      · rw [List.singleton_append, List.isPrefixOf_cons_cons, Bool.and_eq_true,
          beq_iff_eq] at begins
        exact absurd (List.mem_cons.mpr (.inl begins.1.symm)) apart
      · rw [List.isPrefixOf_cons_cons, Bool.and_eq_true] at begins ⊢
        exact ⟨begins.1, ih (fun member => apart (List.mem_cons_of_mem _ member)) begins.2⟩

/-- A replacement brings about no occurrence of a text without the sign. -/
theorem hasInfix_replaceFrom (apart : sign ∉ other) {skip : Nat} {text : Text}
    (absent : hasInfix text other = false) :
    hasInfix (replaceFrom old [sign] skip text) other = false := by
  induction text generalizing skip with
  | nil => cases skip <;> exact absent
  | cons c rest ih =>
    rw [hasInfix, Bool.or_eq_false_iff] at absent
    cases skip with
    | succ skip => exact ih absent.2
    | zero =>
      have here : other.isPrefixOf (replaceFrom old [sign] 0 (c :: rest)) = false :=
        Bool.eq_false_iff.mpr fun begins =>
          Bool.eq_false_iff.mp absent.1 (isPrefixOf_of_replaceFrom apart begins)
      by_cases fits : old.isPrefixOf (c :: rest) = true
      · rw [replaceFrom, if_pos fits, List.singleton_append] at here ⊢
        rw [hasInfix, here, ih absent.2]
        rfl
      · rw [replaceFrom, if_neg fits] at here ⊢
        rw [hasInfix, here, ih absent.2]
        rfl

/-- A replacement leaves no occurrence of what it replaces. -/
theorem hasInfix_replaceFrom_self (nonempty : old ≠ []) (apart : sign ∉ old) (skip : Nat)
    (text : Text) : hasInfix (replaceFrom old [sign] skip text) old = false := by
  induction text generalizing skip with
  | nil =>
    have absent : hasInfix [] old = false := by
      rw [hasInfix, List.isEmpty_eq_false_iff]
      exact nonempty
    cases skip <;> exact absent
  | cons c rest ih =>
    cases skip with
    | succ skip => exact ih skip
    | zero =>
      rw [replaceFrom]
      split
      · have other : old.isPrefixOf (sign :: replaceFrom old [sign] (old.length - 1) rest) =
            false := by
          cases old with
          | nil => exact absurd rfl nonempty
          | cons d tail =>
            rw [List.isPrefixOf_cons_cons, Bool.and_eq_false_iff]
            exact .inl (beq_false_of_ne fun same => apart (same ▸ List.mem_cons_self))
        rw [List.singleton_append, hasInfix, other, ih]
        rfl
      · rename_i misfit
        -- What begins here after the replacement began here before it, and it did not.
        have here : old.isPrefixOf (c :: replaceFrom old [sign] 0 rest) = false := by
          refine Bool.eq_false_iff.mpr fun begins => misfit ?_
          have whole : old.isPrefixOf (replaceFrom old [sign] 0 (c :: rest)) = true := by
            rw [replaceFrom, if_neg misfit]
            exact begins
          exact isPrefixOf_of_replaceFrom apart whole
        rw [hasInfix, here, ih]
        rfl

theorem replaceFrom_of_absent {new text : Text} (absent : hasInfix text old = false) :
    replaceFrom old new 0 text = text := by
  induction text with
  | nil => rfl
  | cons c rest ih =>
    rw [hasInfix, Bool.or_eq_false_iff] at absent
    rw [replaceFrom, absent.1, ih absent.2]
    rfl

theorem replace_eq_replaceFrom (nonempty : old ≠ []) (text new : Text) :
    replace text old new = replaceFrom old new 0 text := by
  rw [replace, List.isEmpty_eq_false_iff.mpr nonempty]
  rfl

end Text

namespace Shortcut

theorem inOrder_perm (table : Registry Text) : (inOrder table).Perm table :=
  List.mergeSort_perm table _

/-- A table whose longer shortcuts come first is replaced as it stands. -/
theorem expand_of_longest_first {table : Registry Text}
    (ordered : table.Pairwise fun left right => right.1.length ≤ left.1.length) (text : Text) :
    expand table text =
      table.foldl (fun text shortcut => text.replace shortcut.1 shortcut.2) text := by
  have kept : inOrder table = table := List.mergeSort_of_pairwise (ordered.imp decide_eq_true)
  rw [expand, kept]

theorem expand_standard (text : Text) :
    expand standard text =
      standard.foldl (fun text shortcut => text.replace shortcut.1 shortcut.2) text :=
  expand_of_longest_first (by decide) text

/-- Shortcuts that stand for single signs, none of which occurs in a shortcut. -/
def SignTable (table : List (Text × Text)) : Prop :=
  ∀ shortcut ∈ table, shortcut.1 ≠ [] ∧
    ∃ sign, shortcut.2 = [sign] ∧ ∀ other ∈ table, sign ∉ other.1

namespace SignTable

/-- Replacing shortcuts one after another, as `expand` does in its order. -/
private theorem hasInfix_foldl {table : List (Text × Text)} (signs : SignTable table)
    (shortcuts : List (Text × Text)) (listed : ∀ shortcut ∈ shortcuts, shortcut ∈ table)
    {text : Text} {other : Text × Text} (present : other ∈ table)
    (gone : other ∈ shortcuts ∨ text.hasInfix other.1 = false) :
    (shortcuts.foldl (fun text shortcut => text.replace shortcut.1 shortcut.2) text).hasInfix
      other.1 = false := by
  induction shortcuts generalizing text with
  | nil => simpa using gone
  | cons shortcut rest ih =>
    obtain ⟨nonempty, sign, stands, apart⟩ := signs shortcut (listed shortcut List.mem_cons_self)
    apply ih fun next member => listed next (List.mem_cons_of_mem _ member)
    by_cases later : other ∈ rest
    · exact .inl later
    · right
      dsimp only
      rw [Text.replace_eq_replaceFrom nonempty, stands]
      rcases gone with here | absent
      · obtain rfl : other = shortcut := (List.mem_cons.mp here).resolve_right later
        exact Text.hasInfix_replaceFrom_self nonempty (apart other present) 0 text
      · exact Text.hasInfix_replaceFrom (apart other present) absent

/-- An expanded text contains no shortcut. -/
theorem hasInfix_expand {table : Registry Text} (signs : SignTable table) (text : Text)
    {shortcut : Text × Text} (present : shortcut ∈ table) :
    (expand table text).hasInfix shortcut.1 = false := by
  have permuted := inOrder_perm table
  exact hasInfix_foldl signs _ (fun other member => permuted.mem_iff.mp member) present
    (.inl (permuted.mem_iff.mpr present))

/-- A text without shortcuts is left as it is. -/
theorem expand_of_absent {table : Registry Text} (signs : SignTable table) {text : Text}
    (absent : ∀ shortcut ∈ table, text.hasInfix shortcut.1 = false) : expand table text = text := by
  have unchanged : ∀ shortcuts : List (Text × Text), (∀ shortcut ∈ shortcuts, shortcut ∈ table) →
      shortcuts.foldl (fun text shortcut => text.replace shortcut.1 shortcut.2) text = text := by
    intro shortcuts listed
    induction shortcuts with
    | nil => rfl
    | cons shortcut rest ih =>
      have member := listed shortcut List.mem_cons_self
      rw [List.foldl_cons, Text.replace_eq_replaceFrom (signs shortcut member).1,
        Text.replaceFrom_of_absent (absent shortcut member)]
      exact ih fun next later => listed next (List.mem_cons_of_mem _ later)
  exact unchanged _ fun shortcut member => (inOrder_perm table).mem_iff.mp member

/-- Expanding twice is expanding once. -/
theorem expand_expand {table : Registry Text} (signs : SignTable table) (text : Text) :
    expand table (expand table text) = expand table text :=
  signs.expand_of_absent fun _ present => signs.hasInfix_expand text present

end SignTable

theorem signTable_standard : SignTable standard := by
  -- The signs are tested as a list, since a statement about some character is no finite one.
  have tested : standard.all (fun shortcut => !shortcut.1.isEmpty &&
      ['←', '≠', '≤', '≥'].any fun sign => shortcut.2 == [sign] &&
        standard.all fun other => !other.1.contains sign) = true := by decide
  intro shortcut member
  have passed := List.all_eq_true.mp tested shortcut member
  simp only [Bool.and_eq_true, Bool.not_eq_true', List.isEmpty_eq_false_iff, List.any_eq_true,
    List.all_eq_true, beq_iff_eq, List.contains_eq_mem, decide_eq_false_iff_not] at passed
  obtain ⟨nonempty, sign, -, stands, apart⟩ := passed
  exact ⟨nonempty, sign, stands, apart⟩

end Shortcut

end PseudoLint
