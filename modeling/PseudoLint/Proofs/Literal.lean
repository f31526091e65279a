import PseudoLint.Literal
import PseudoLint.Proofs.Text.Trailing

/-! # Taking literals out of a line

Quoted stretches are taken out from left to right, so a line can be read in parts: a text without
quotes stays as it is and a closed literal disappears. The code of a line whose remaining text has
no quotes and no slashes is that text, trimmed, and the code of a comment is empty.
-/

namespace PseudoLint

/-- A text without quotes in front stays as it is. -/
theorem dropQuoted_append {quote : Char} {left : Text} (free : quote ∉ left) (right : Text) :
    dropQuoted quote (left ++ right) = left ++ dropQuoted quote right := by
  obtain ⟨first, others, split⟩ : ∃ first others, right.splitOn quote = first :: others :=
    Text.exists_splitOnP _ right
  unfold dropQuoted
  rw [Text.splitOn_append_of_free free split, split]
  match others with
  | [] => simp only [outsideQuotes]
  | [unclosed] => simp only [outsideQuotes, List.append_assoc]
  | inside :: outside :: rest => simp only [outsideQuotes, List.append_assoc]

/-- A closed literal disappears. -/
theorem dropQuoted_literal {quote : Char} {inside : Text} (free : quote ∉ inside) (right : Text) :
    dropQuoted quote (quote :: (inside ++ quote :: right)) = dropQuoted quote right := by
  have opened : List.splitOn quote (quote :: (inside ++ quote :: right)) =
      [] :: inside :: right.splitOn quote := by
    rw [← List.nil_append (quote :: _),
      List.splitOn_append_cons_self_of_not_mem List.not_mem_nil,
      List.splitOn_append_cons_self_of_not_mem free]
  obtain ⟨first, others, split⟩ : ∃ first others, right.splitOn quote = first :: others :=
    Text.exists_splitOnP _ right
  simp only [dropQuoted, opened, split, outsideQuotes, List.nil_append]

theorem dropQuoted_of_free {quote : Char} {text : Text} (free : quote ∉ text) :
    dropQuoted quote text = text := by
  simp only [dropQuoted, List.splitOn_eq_singleton free, outsideQuotes]

theorem dropComment_of_absent {text : Text} (absent : text.hasInfix "//" = false) :
    dropComment text = text := by
  induction text with
  | nil => rfl
  | cons c rest ih =>
    rw [Text.hasInfix, Bool.or_eq_false_iff] at absent
    have plain : beginsComment (c :: rest) = false := by
      simp only [beginsComment, Text.startsWith, absent.1, Bool.false_and]
    rw [dropComment, plain, ih absent.2]
    rfl

theorem dropComment_of_free {text : Text} (free : '/' ∉ text) : dropComment text = text := by
  apply dropComment_of_absent
  rw [Bool.eq_false_iff, ne_eq, Text.hasInfix_iff]
  exact fun slashes => free (slashes.subset List.mem_cons_self)

/-! ## Comments -/

theorem mem_outsideQuotes {quote c : Char} {stretches : List Text}
    (member : c ∈ outsideQuotes quote stretches) (other : c ≠ quote) :
    ∃ stretch ∈ stretches, c ∈ stretch := by
  fun_induction outsideQuotes quote stretches with
  | case1 => cases member
  | case2 outside => exact ⟨outside, List.mem_singleton_self _, member⟩
  | case3 outside unclosed =>
    rcases List.mem_append.mp member with here | there
    · exact ⟨outside, List.mem_cons_self, here⟩
    · have behind := (List.mem_cons.mp there).resolve_left other
      exact ⟨unclosed, List.mem_cons_of_mem _ List.mem_cons_self, behind⟩
  | case4 outside inside rest _ ih =>
    rcases List.mem_append.mp member with here | there
    · exact ⟨outside, List.mem_cons_self, here⟩
    · obtain ⟨stretch, present, found⟩ := ih there
      exact ⟨stretch, List.mem_cons_of_mem _ (List.mem_cons_of_mem _ present), found⟩

theorem not_mem_dropQuoted {quote c : Char} {text : Text} (free : c ∉ text) (other : c ≠ quote) :
    c ∉ dropQuoted quote text := by
  intro member
  obtain ⟨stretch, present, found⟩ := mem_outsideQuotes member other
  exact free (Text.mem_of_mem_splitOnP present found).1

theorem dropComment_comment {rest : Text} (free : '\n' ∉ rest) :
    dropComment ('/' :: '/' :: rest) = [] := by
  have passed : ('/' :: '/' :: rest).dropWhile (· != '\n') = [] :=
    Text.dropWhile_of_free (by simp [free])
  have begins : beginsComment ('/' :: '/' :: rest) = true := by
    have start : Text.startsWith ('/' :: '/' :: rest) "//" = true := by
      rw [Text.startsWith, String.toList_ofList]
      rfl
    simp only [beginsComment, start, passed, List.isEmpty_nil, Bool.true_or, Bool.and_self]
  rw [dropComment, begins, passed]
  rfl

/-- The code of a comment is empty wherever it has quotes. -/
theorem codeOf_comment {rest : Text} (free : '\n' ∉ rest) : codeOf ('/' :: '/' :: rest) = [] := by
  have slashes : ∀ quote text, quote ≠ '/' →
      dropQuoted quote ('/' :: '/' :: text) = '/' :: '/' :: dropQuoted quote text := by
    intro quote text other
    have apart : quote ∉ ['/', '/'] := by simp [other]
    exact dropQuoted_append apart text
  have kept : '\n' ∉ (dropQuoted '"' rest).takeWhile (· != '"') := fun member =>
    not_mem_dropQuoted free (by decide) ((List.takeWhile_sublist _).subset member)
  have comment : '\n' ∉ dropQuoted '\'' ((dropQuoted '"' rest).takeWhile (· != '"')) :=
    not_mem_dropQuoted kept (by decide)
  rw [codeOf, slashes '"' rest (by decide)]
  change Text.trim (dropComment (dropQuoted '\'' ('/' :: '/' :: List.takeWhile _ _))) = []
  rw [slashes '\'' _ (by decide), dropComment_comment comment]
  rfl

/-! ## Lines without comments -/

/-- A text whose quoted stretches leave a plain one. -/
structure LeavesPlain (text plain : Text) : Prop where
  outside : dropQuoted '"' text = plain
  quotes : '"' ∉ plain
  apostrophes : '\'' ∉ plain
  slashes : '/' ∉ plain

theorem LeavesPlain.codeOf_eq {text plain : Text} (leaves : LeavesPlain text plain) :
    codeOf text = plain.trim := by
  rw [codeOf, leaves.outside, Text.takeWhile_of_free leaves.quotes,
    dropQuoted_of_free leaves.apostrophes, dropComment_of_free leaves.slashes]

theorem LeavesPlain.charLiterals_eq_nil {text plain : Text} (leaves : LeavesPlain text plain) :
    charLiterals text = [] := by
  rw [charLiterals, dropStrings, leaves.outside, dropComment_of_free leaves.slashes,
    List.splitOn_eq_singleton leaves.apostrophes]
  rfl

end PseudoLint
