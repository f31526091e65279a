import PseudoLint.Proofs.Form.ArrayDeclaration
import PseudoLint.Rule.Declaration

/-! # Names and types with a colon between them

A declaration is cut at its first colon, so its type may have colons of its own. A parameter is
split at all its colons and read only if there is exactly one.
-/

namespace PseudoLint.Rule

/-- A declaration of one name declares it with whatever stands behind the first colon. -/
theorem declaredNames?_of_code {statement : Statement} {name type : Text}
    (named : isName name = true)
    (code : statement.code = "DECLARE".toList ++ ' ' :: (name ++ ' ' :: ':' :: type)) :
    declaredNames? statement = some ([name], TypeText.normalize type) := by
  have behind : statement.code.drop "DECLARE".length = (' ' :: (name ++ [' '])) ++ ':' :: type := by
    have letters : "DECLARE".length = "DECLARE".toList.length := by decide
    rw [code, letters, List.drop_left, List.cons_append, List.append_assoc]
    rfl
  have free {c : Char} (outside : isNameChar c = false) (other : c ≠ ' ') :
      c ∉ ' ' :: (name ++ [' ']) := by
    simp [other, not_mem_of_isName named outside]
  have comma : ',' ∉ ' ' :: (name ++ [' ']) := free (by decide) (by decide)
  have colon : ':' ∉ ' ' :: (name ++ [' ']) := free (by decide) (by decide)
  have space : ∀ c ∈ [' '], isBlank c = true := List.forall_mem_singleton.mpr (by decide)
  have trimmed : Text.trim (' ' :: (name ++ [' '])) = name :=
    Text.trim_padded space (isSolid_of_isName named) space
  rw [declaredNames?, behind, Text.cut_append_cons colon]
  simp only [List.splitOn_eq_singleton comma, List.map_cons, List.map_nil, trimmed,
    List.filter_cons_of_pos named, List.filter_nil]

/-- A parameter whose type has a colon is passed over. -/
theorem parameter?_of_two_colons (line : Int) (front middle back : Text) :
    parameter? line (front ++ ':' :: (middle ++ ':' :: back)) = none := by
  have solid : isBlank ':' = false := by decide
  have pieces : List.splitOn ':' (Text.trim (front ++ ':' :: (middle ++ ':' :: back))) =
      front.trimStart.splitOn ':' ++ (middle.splitOn ':' ++ back.trimEnd.splitOn ':') := by
    rw [Text.trim_append_cons solid, Text.trimEnd_append_cons solid, List.splitOn_append_cons_self,
      List.splitOn_append_cons_self]
  have some (text : Text) : 0 < (text.splitOn ':').length :=
    List.length_pos_iff.mpr (List.splitOnP_ne_nil _ text)
  have counts := congrArg List.length pieces
  rw [List.length_append, List.length_append] at counts
  have first := some front.trimStart
  have second := some middle
  have third := some back.trimEnd
  unfold parameter?
  split
  · rename_i words type two
    rw [two, List.length_cons, List.length_singleton] at counts
    omega
  · rfl

end PseudoLint.Rule
