import PseudoLint.Check
import PseudoLint.Proofs.Literal

/-! # What literals and comments hide

A text in which every double quote has a partner can be taken apart into stretches outside and
inside of literals, so a literal behind it is recognised as one whatever it holds. It follows that
the code of a line is the code without any one of its closed literals (`codeOf_append_literal`),
that it ends where a string is left open (`codeOf_append_unclosed`) and that it ends at the first
two slashes if no quote stands before them (`codeOf_append_comment`). Rules that read the code
cannot tell apart two lines that differ inside a literal.
-/

namespace PseudoLint

/-! ## Quotes with partners -/

/-- A text in which every quote has a partner: stretches inside literals alternate with stretches
outside. -/
inductive Paired (quote : Char) : Text → Prop where
  | plain {text : Text} (free : quote ∉ text) : Paired quote text
  | literal {outside inside rest : Text} (outsideFree : quote ∉ outside)
      (insideFree : quote ∉ inside) (paired : Paired quote rest) :
      Paired quote (outside ++ quote :: (inside ++ quote :: rest))

theorem paired_of_even {quote : Char} {text : Text} (even : text.count quote % 2 = 0) :
    Paired quote text := by
  induction size : text.length using Nat.strongRecOn generalizing text with
  | ind bound ih =>
    by_cases member : quote ∈ text
    · obtain ⟨outside, opened, rfl, outsideFree⟩ := List.eq_append_cons_of_mem member
      have odd : opened.count quote % 2 = 1 := by
        rw [List.count_append, List.count_cons_self, List.count_eq_zero.mpr outsideFree] at even
        omega
      have closes : quote ∈ opened := List.count_pos_iff.mp (by omega)
      obtain ⟨inside, rest, rfl, insideFree⟩ := List.eq_append_cons_of_mem closes
      have evenRest : rest.count quote % 2 = 0 := by
        rw [List.count_append, List.count_cons_self, List.count_eq_zero.mpr insideFree] at odd
        omega
      have shorter : rest.length < bound := by
        simp only [List.length_append, List.length_cons] at size
        omega
      exact .literal outsideFree insideFree (ih rest.length shorter evenRest rfl)
    · exact .plain member

namespace Paired

variable {quote : Char} {text : Text}

/-- What stands behind a text with paired quotes is read on its own. -/
theorem dropQuoted_append (paired : Paired quote text) (right : Text) :
    dropQuoted quote (text ++ right) = dropQuoted quote text ++ dropQuoted quote right := by
  induction paired with
  | plain free => rw [PseudoLint.dropQuoted_append free, dropQuoted_of_free free]
  | @literal outside inside rest outsideFree insideFree _ ih =>
    have apart : outside ++ quote :: (inside ++ quote :: rest) ++ right =
        outside ++ quote :: (inside ++ quote :: (rest ++ right)) := by simp
    rw [apart, PseudoLint.dropQuoted_append outsideFree, dropQuoted_literal insideFree, ih,
      PseudoLint.dropQuoted_append outsideFree, dropQuoted_literal insideFree, List.append_assoc]

theorem not_mem_dropQuoted (paired : Paired quote text) : quote ∉ dropQuoted quote text := by
  induction paired with
  | plain free => rwa [dropQuoted_of_free free]
  | literal outsideFree insideFree _ ih =>
    rw [PseudoLint.dropQuoted_append outsideFree, dropQuoted_literal insideFree]
    exact fun member => (List.mem_append.mp member).elim outsideFree ih

end Paired

theorem dropQuoted_unclosed {quote : Char} {rest : Text} (free : quote ∉ rest) :
    dropQuoted quote (quote :: rest) = quote :: rest := by
  have split : List.splitOn quote (quote :: rest) = [[], rest] := by
    rw [← List.nil_append (quote :: rest),
      List.splitOn_append_cons_self_of_not_mem List.not_mem_nil, List.splitOn_eq_singleton free]
  simp only [dropQuoted, split, outsideQuotes, List.nil_append]

/-! ## Strings -/

/-- A closed string behind paired quotes leaves nothing in the code. -/
theorem codeOf_append_literal {before inside : Text} (even : before.count '"' % 2 = 0)
    (free : '"' ∉ inside) (behind : Text) :
    codeOf (before ++ '"' :: (inside ++ '"' :: behind)) = codeOf (before ++ behind) := by
  have paired := paired_of_even even
  rw [codeOf, paired.dropQuoted_append, dropQuoted_literal free, ← paired.dropQuoted_append,
    ← codeOf]

/-- A string that is not closed ends the code. -/
theorem codeOf_append_unclosed {before rest : Text} (even : before.count '"' % 2 = 0)
    (free : '"' ∉ rest) : codeOf (before ++ '"' :: rest) = codeOf before := by
  have paired := paired_of_even even
  have stopped := Text.takeWhile_append_of_free paired.not_mem_dropQuoted ('"' :: rest)
  rw [List.takeWhile_cons_of_neg (by decide), List.append_nil] at stopped
  rw [codeOf, paired.dropQuoted_append, dropQuoted_unclosed free, stopped, codeOf,
    Text.takeWhile_of_free paired.not_mem_dropQuoted]

/-! ## Comments -/

/-- A text without quotes behind which two slashes are the first of their line, so that they begin
its comment. -/
structure PrecedesComment (code : Text) : Prop where
  quotes : '"' ∉ code
  apostrophes : '\'' ∉ code
  first : Text.hasInfix (code ++ ['/']) "//" = false

theorem dropComment_append_comment {code remark : Text}
    (first : Text.hasInfix (code ++ ['/']) "//" = false) (free : '\n' ∉ remark) :
    dropComment (code ++ '/' :: '/' :: remark) = code := by
  induction code with
  | nil => exact dropComment_comment free
  | cons c rest ih =>
    rw [List.cons_append, Text.hasInfix, Bool.or_eq_false_iff] at first
    -- Two slashes at the head would be seen in `rest` with the first slash of the comment behind.
    have plain : beginsComment (c :: (rest ++ '/' :: '/' :: remark)) = false := by
      have start : Text.startsWith (c :: (rest ++ '/' :: '/' :: remark)) "//" = false := by
        rw [← first.1, Text.startsWith]
        cases rest <;> simp [List.isPrefixOf]
      simp only [beginsComment, start, Bool.false_and]
    rw [List.cons_append, dropComment, plain, ih first.2]
    rfl

/-- The code ends where the comment begins, whatever the comment says. -/
theorem PrecedesComment.codeOf_append_comment {code remark : Text} (precedes : PrecedesComment code)
    (free : '\n' ∉ remark) : codeOf (code ++ '/' :: '/' :: remark) = code.trim := by
  have slashed : ∀ quote text, quote ∉ code → quote ≠ '/' →
      dropQuoted quote (code ++ '/' :: '/' :: text) =
        code ++ '/' :: '/' :: dropQuoted quote text := by
    intro quote text apart other
    have outside : quote ∉ code ++ ['/', '/'] := by simp [apart, other]
    have whole := dropQuoted_append outside text
    simpa only [List.append_assoc, List.cons_append, List.nil_append] using whole
  have taken : (code ++ '/' :: '/' :: dropQuoted '"' remark).takeWhile (· != '"') =
      code ++ '/' :: '/' :: (dropQuoted '"' remark).takeWhile (· != '"') := by
    have plain : '"' ∉ code ++ ['/', '/'] := by simp [precedes.quotes]
    have whole := Text.takeWhile_append_of_free plain (dropQuoted '"' remark)
    simpa only [List.append_assoc, List.cons_append, List.nil_append] using whole
  have kept : '\n' ∉ (dropQuoted '"' remark).takeWhile (· != '"') := fun member =>
    not_mem_dropQuoted free (by decide) ((List.takeWhile_sublist _).subset member)
  rw [codeOf, slashed '"' remark precedes.quotes (by decide), taken,
    slashed '\'' _ precedes.apostrophes (by decide),
    dropComment_append_comment precedes.first (not_mem_dropQuoted kept (by decide))]

/-! ## Rules on words -/

/-- Two texts that differ in nothing but what stands inside one string, closed or not. -/
inductive SameButString : Text → Text → Prop where
  | closed {before inside other : Text} (behind : Text) (even : before.count '"' % 2 = 0)
      (free : '"' ∉ inside) (otherFree : '"' ∉ other) :
      SameButString (before ++ '"' :: (inside ++ '"' :: behind))
        (before ++ '"' :: (other ++ '"' :: behind))
  | unclosed {before rest other : Text} (even : before.count '"' % 2 = 0) (free : '"' ∉ rest)
      (otherFree : '"' ∉ other) :
      SameButString (before ++ '"' :: rest) (before ++ '"' :: other)

namespace SameButString

variable {left right : Text}

theorem codeOf_eq (same : SameButString left right) : codeOf left = codeOf right := by
  cases same with
  | closed behind even free otherFree =>
    rw [codeOf_append_literal even free, codeOf_append_literal even otherFree]
  | unclosed even free otherFree =>
    rw [codeOf_append_unclosed even free, codeOf_append_unclosed even otherFree]

theorem count_quote_eq (same : SameButString left right) : left.count '"' = right.count '"' := by
  cases same with
  | closed behind even free otherFree =>
    simp only [List.count_append, List.count_cons_self, List.count_eq_zero.mpr free,
      List.count_eq_zero.mpr otherFree]
  | unclosed even free otherFree =>
    simp only [List.count_append, List.count_cons_self, List.count_eq_zero.mpr free,
      List.count_eq_zero.mpr otherFree]

end SameButString

namespace Rule

/-- The rules that read nothing of a line but its code. -/
def codeRules : List Rule :=
  [nameShape, keywordCase, foreignKeyword, arrayBounds]

/-- A rule on the words of a line reads its code, and the rule on usage also whether a string is
left open. -/
theorem codeRules_congr {line : Int} {left right : Text} (codes : codeOf left = codeOf right) :
    ∀ rule ∈ codeRules, ∀ config state,
      rule config ⟨line, left⟩ state = rule config ⟨line, right⟩ state := by
  simp only [codeRules, List.forall_mem_cons, List.not_mem_nil, false_implies, implies_true,
    and_true]
  refine ⟨?_, ?_, ?_, ?_⟩ <;> intro config state
  · simp only [nameShape, reporting, Statement.code, codes]
  · simp only [keywordCase, reporting, Statement.names, Statement.code, codes]
  · simp only [foreignKeyword, reporting, Statement.names, Statement.code, codes]
  · simp only [arrayBounds, accesses, Statement.code, codes]

theorem usage_congr {line : Int} {left right : Text} (codes : codeOf left = codeOf right)
    (counts : left.count '"' = right.count '"') (config : Config) (state : State) :
    usage config ⟨line, left⟩ state = usage config ⟨line, right⟩ state := by
  have reads : readsVariables ⟨line, left⟩ = readsVariables ⟨line, right⟩ := by
    simp only [readsVariables, Statement.hasUnclosedString, Statement.code, codes, counts]
  simp only [usage, reporting, reads, Statement.code, codes]

/-- A line that leaves a string open is not looked at for uses. -/
theorem usage_of_unclosed {statement : Statement} (opened : statement.hasUnclosedString = true)
    (config : Config) (state : State) : usage config statement state = .ok (state, []) := by
  simp only [usage, reporting, readsVariables, opened, Bool.not_true, Bool.false_and,
    Bool.false_eq_true, ↓reduceIte]

/-- What a string holds is invisible to the rules on words. The code of a line is the same whatever
stands inside a closed string, ends where a string is left open and ends where a comment begins. So
the rules on names, on reserved and foreign words, on indices and on uses answer the same for two
lines that differ inside one string. All but the last of them also answer for a line that leaves a
string open as for the line that ends before it; the rule on uses then finds nothing. -/
theorem literal_text_invisible :
    (∀ before behind : Text, before.count '"' % 2 = 0 →
      ∀ inside other : Text, '"' ∉ inside → '"' ∉ other →
        codeOf (before ++ '"' :: (inside ++ '"' :: behind)) =
          codeOf (before ++ '"' :: (other ++ '"' :: behind))) ∧
    (∀ before rest : Text, before.count '"' % 2 = 0 → '"' ∉ rest →
      codeOf (before ++ '"' :: rest) = codeOf before) ∧
    (∀ code remark : Text, PrecedesComment code → '\n' ∉ remark →
      codeOf (code ++ '/' :: '/' :: remark) = code.trim) ∧
    (∀ left right : Text, SameButString left right →
      ∀ rule ∈ [nameShape, keywordCase, foreignKeyword, arrayBounds, usage],
        ∀ (config : Config) (line : Int) (state : State),
          rule config ⟨line, left⟩ state = rule config ⟨line, right⟩ state) ∧
    ∀ before rest : Text, before.count '"' % 2 = 0 → '"' ∉ rest →
      ∀ (config : Config) (line : Int) (state : State),
        (∀ rule ∈ codeRules,
          rule config ⟨line, before ++ '"' :: rest⟩ state = rule config ⟨line, before⟩ state) ∧
        usage config ⟨line, before ++ '"' :: rest⟩ state = .ok (state, []) := by
  refine ⟨?_, ?_, ?_, ?_, ?_⟩
  · intro before behind even inside other free otherFree
    rw [codeOf_append_literal even free, codeOf_append_literal even otherFree]
  · intro before rest even free
    exact codeOf_append_unclosed even free
  · intro code remark precedes free
    exact precedes.codeOf_append_comment free
  · intro left right same rule listed config line state
    have split : rule ∈ codeRules ∨ rule = usage := by
      simpa [codeRules, or_assoc] using listed
    rcases split with reads | rfl
    · exact codeRules_congr same.codeOf_eq rule reads config state
    · exact usage_congr same.codeOf_eq same.count_quote_eq config state
  · intro before rest even free config line state
    have opened : (Statement.mk line (before ++ '"' :: rest)).hasUnclosedString = true := by
      simp only [Statement.hasUnclosedString, List.count_append, List.count_cons_self,
        List.count_eq_zero.mpr free, bne_iff_ne]
      omega
    refine ⟨?_, usage_of_unclosed opened config state⟩
    intro rule reads
    exact codeRules_congr (codeOf_append_unclosed even free) rule reads config state

/-- Slashes, an apostrophe and a malformed name inside a string leave the use behind it the only
finding, a string left open ends the code, and quotes in a comment open nothing. -/
theorem string_contents_unseen :
    usage {} ⟨1, "OUTPUT " ++ '"' :: ("it's // 2nd" ++ '"' :: ", y")⟩ {} =
        usage {} ⟨1, "OUTPUT " ++ '"' :: ("" ++ '"' :: ", y")⟩ {} ∧
    usage {} ⟨1, "OUTPUT " ++ '"' :: ("" ++ '"' :: ", y")⟩ {} = .ok ({}, [.undeclared "y"]) ∧
    codeOf ("OUTPUT " ++ '"' :: "2nd") = codeOf "OUTPUT " ∧
    nameShape {} ⟨1, "OUTPUT " ++ '"' :: "2nd"⟩ {} = nameShape {} ⟨1, "OUTPUT "⟩ {} ∧
    codeOf ("x " ++ '/' :: '/' :: " \"it's") = "x" := by
  obtain ⟨-, unclosed, comments, strings, opened⟩ := literal_text_invisible
  have closed : SameButString ("OUTPUT " ++ '"' :: ("it's // 2nd" ++ '"' :: ", y"))
      ("OUTPUT " ++ '"' :: ("" ++ '"' :: ", y")) :=
    .closed ", y" (by decide) (by decide) (by decide)
  refine ⟨strings _ _ closed usage (by simp) {} 1 {}, by rfl,
    unclosed "OUTPUT " "2nd" (by decide) (by decide), ?_, ?_⟩
  · exact (opened "OUTPUT " "2nd" (by decide) (by decide) {} 1 {}).1 nameShape (by simp [codeRules])
  · exact comments "x " " \"it's" ⟨by decide, by decide, by decide⟩ (by decide)

end Rule

end PseudoLint
