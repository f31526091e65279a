import PseudoLint.Proofs.Text.Pieces
import PseudoLint.Symbol

/-! # Normal type texts

The words of a text are solid, so a text of single spaces between them has the same words again.
Hence a normalized type text is not changed by normalizing it once more, and the table keeps each
type in one form only.
-/

namespace PseudoLint

namespace Text

/-- A text that can stand as one word: it is not empty and holds no blank. -/
def IsSolid (word : Text) : Prop :=
  word ≠ [] ∧ ∀ c ∈ word, isBlank c = false

theorem IsSolid.append {left right : Text} (before : left.IsSolid) (behind : right.IsSolid) :
    IsSolid (left ++ right) :=
  ⟨List.append_ne_nil_of_left_ne_nil before.1 right,
    List.forall_mem_append.mpr ⟨before.2, behind.2⟩⟩

theorem isSolid_of_mem_words {text word : Text} (member : word ∈ text.words) : word.IsSolid := by
  obtain ⟨stretch, filled⟩ := List.mem_filter.mp member
  constructor
  · rintro rfl
    cases filled
  · intro c present
    exact (mem_of_mem_splitOnP stretch present).2

/-- Reading words undoes joining them by single spaces. -/
theorem words_join {texts : List Text} (solid : ∀ word ∈ texts, word.IsSolid) :
    (join " " texts).words = texts := by
  unfold join
  induction texts with
  | nil => rfl
  | cons first rest ih =>
    obtain ⟨nonempty, inside⟩ := solid first List.mem_cons_self
    have alone : first.words = [first] := runs_of_inside nonempty inside
    cases rest with
    | nil => rwa [List.intercalate_singleton]
    | cons second others =>
      have later := ih fun word member => solid word (List.mem_cons_of_mem _ member)
      have space : isBlank ' ' = true := by decide
      calc words (List.intercalate " ".toList (first :: second :: others))
          = words (first ++ ' ' :: List.intercalate " ".toList (second :: others)) := by
            rw [List.intercalate_cons_cons, List.append_assoc]
            rfl
        _ = first.words ++ words (List.intercalate " ".toList (second :: others)) :=
            runs_append_cons space ..
        _ = first :: second :: others := by rw [alone, later, List.singleton_append]

end Text

/-- Words with single spaces between them are a normal type text. -/
theorem TypeText.normalize_join {words : List Text} (solid : ∀ word ∈ words, word.IsSolid) :
    normalize (Text.join " " words) = Text.join " " words :=
  congrArg (Text.join " ") (Text.words_join solid)

/-- A normalized type text is normal. -/
theorem TypeText.normalize_normalize (type : Text) : normalize (normalize type) = normalize type :=
  normalize_join fun _ => Text.isSolid_of_mem_words

end PseudoLint
