import PseudoLint.Proofs.SymbolTable.Renumbering
import PseudoLint.Proofs.Text.UpperWords
import PseudoLint.Rule.Usage
import PseudoLint.Sweep

/-! # Types up to blanks

Two type texts are the same exactly if they have the same words. What is read off a type is read off
its words one by one, because no blank stands in what is looked for and upper-casing neither makes
blanks nor removes them. So it does not matter to the rules that ask for a type whether a symbol
carries its type as it was declared or in normal form.
-/

namespace PseudoLint

namespace TypeText

theorem same_iff {left right : Text} : same left right = true ↔ left.words = right.words := by
  rw [same, beq_iff_eq]
  constructor
  · intro normal
    have words := congrArg Text.words normal
    rwa [normalize, normalize, Text.words_join fun _ => Text.isSolid_of_mem_words,
      Text.words_join fun _ => Text.isSolid_of_mem_words] at words
  · exact congrArg (Text.join " ")

theorem same_normalize (type : Text) : same (normalize type) type = true := by
  rw [same, normalize_normalize, beq_self_eq_true]

theorem equivalence_same : Equivalence fun left right => same left right = true := by
  simp only [same_iff]
  exact ⟨fun _ => rfl, Eq.symm, Eq.trans⟩

/-- A type of characters is a single word. -/
theorem isChar_iff {type : Text} :
    isChar type = true ↔ type.words.map Text.upper = ["CHAR".toList] := by
  have normal : (normalize type).words = type.words :=
    Text.words_join fun _ => Text.isSolid_of_mem_words
  rw [isChar, beq_iff_eq, ← normal, ← Text.words_upper]
  constructor
  · intro capitals
    rw [capitals]
    decide
  · intro capitals
    rw [Text.words_upper, normal] at capitals
    obtain ⟨word, alone, spelled⟩ := List.map_eq_singleton_iff.mp capitals
    rw [normalize, alone, Text.join, List.intercalate_singleton, spelled]

/-- One word of a type decides whether its values have a length. -/
theorem supportsLength_iff {type : Text} :
    supportsLength type = true ↔ ∃ word ∈ type.words,
      word.upper.hasInfix "STRING" = true ∨ word.upper.hasInfix "ARRAY" = true := by
  have string : Text.IsSolid "STRING" := Text.isSolid_of_all (by decide) (by decide)
  have array : Text.IsSolid "ARRAY" := Text.isSolid_of_all (by decide) (by decide)
  rw [supportsLength, Bool.or_eq_true, isString, isArray, Text.hasInfix_upper_iff string,
    Text.hasInfix_upper_iff array, ← exists_or]
  simp only [and_or_left]

variable {left right : Text}

theorem isChar_congr (equal : same left right = true) : isChar left = isChar right := by
  rw [Bool.eq_iff_iff, isChar_iff, isChar_iff, same_iff.mp equal]

theorem supportsLength_congr (equal : same left right = true) :
    supportsLength left = supportsLength right := by
  rw [Bool.eq_iff_iff, supportsLength_iff, supportsLength_iff, same_iff.mp equal]

end TypeText

/-! ## Symbols with other type texts -/

/-- A symbol with another type text. -/
def Symbol.retype (change : Text → Text) (symbol : Symbol) : Symbol :=
  { symbol with type := change symbol.type }

namespace SymbolTable

/-- A table whose variables, constants and parameters have other type texts. -/
def retype (change : Text → Text) (table : SymbolTable) : SymbolTable :=
  { table with globals := table.globals.mapValues (Symbol.retype change) }

@[simp] theorem resolve?_retype (change : Text → Text) (table : SymbolTable) (name : Text) :
    (table.retype change).resolve? name = (table.resolve? name).map (Symbol.retype change) :=
  Registry.get?_mapValues ..

end SymbolTable

section

variable {change : Text → Text} (kept : ∀ type, TypeText.same (change type) type = true)

include kept

theorem Rule.stringAssignmentFindings_retype (statement : Statement) (table : SymbolTable) :
    stringAssignmentFindings statement (table.retype change) =
      stringAssignmentFindings statement table := by
  unfold stringAssignmentFindings
  split
  · rename_i name _
    rw [SymbolTable.resolve?_retype]
    cases table.resolve? name with
    | none => rfl
    | some symbol =>
      simp only [Option.map_some, Symbol.retype, TypeText.isChar_congr (kept symbol.type)]
  · rfl

/-- The message on a length quotes the type, but the same lengths are reported. -/
theorem Sweep.map_line_lengths_retype (table : SymbolTable) (statements : List Statement) :
    (lengths (table.retype change) statements).map (·.line) =
      (lengths table statements).map (·.line) := by
  simp only [lengths, List.map_flatMap, SymbolTable.resolve?_retype]
  congr 1
  funext statement
  congr 1
  funext name
  cases table.resolve? name with
  | none => rfl
  | some symbol =>
    simp only [Option.map_some, Symbol.retype, TypeText.supportsLength_congr (kept symbol.type)]
    split
    · rfl
    · rfl

end

namespace TypeText

/-- Comparing types does not see blanks, and neither do the questions that are asked about types.
Normalizing is idempotent, two types are the same exactly if they have the same words, and the words
decide whether a type is one of characters and whether it has a length, so that same types agree in
both. The rule on strings for character variables and the sweep for lengths find the same whether
the types of the symbols are normalized or not. -/
theorem verdicts_respect_same :
    (∀ type, normalize (normalize type) = normalize type) ∧
    (∀ left right, same left right = true ↔ left.words = right.words) ∧
    (Equivalence fun left right => same left right = true) ∧
    (∀ type, (isChar type = true ↔ type.words.map Text.upper = ["CHAR".toList]) ∧
      (supportsLength type = true ↔ ∃ word ∈ type.words,
        word.upper.hasInfix "STRING" = true ∨ word.upper.hasInfix "ARRAY" = true)) ∧
    (∀ left right, same left right = true →
      isChar left = isChar right ∧ supportsLength left = supportsLength right) ∧
    (∀ statement table, Rule.stringAssignmentFindings statement (table.retype normalize) =
      Rule.stringAssignmentFindings statement table) ∧
    ∀ table statements, (Sweep.lengths (table.retype normalize) statements).map (·.line) =
      (Sweep.lengths table statements).map (·.line) := by
  refine ⟨normalize_normalize, fun _ _ => same_iff, equivalence_same,
    fun _ => ⟨isChar_iff, supportsLength_iff⟩, ?_, ?_, ?_⟩
  · exact fun _ _ equal => ⟨isChar_congr equal, supportsLength_congr equal⟩
  · exact Rule.stringAssignmentFindings_retype same_normalize
  · exact Sweep.map_line_lengths_retype same_normalize

/-- Tabs and wide spaces leave an array type one with a length and not one of characters. -/
theorem spaced_array_type_has_length :
    let declared : Text := " Array[1:3]\u2003 of\tchar"
    let written : Text := "Array[1:3] of char"
    same declared written = true ∧ isChar declared = false ∧ supportsLength declared = true := by
  intro declared written
  have facts : same declared written = true ∧ isChar written = false ∧
      supportsLength written = true := by decide
  obtain ⟨equal, notChar, hasLength⟩ := facts
  obtain ⟨chars, lengths⟩ := verdicts_respect_same.2.2.2.2.1 declared written equal
  exact ⟨equal, chars.trans notChar, lengths.trans hasLength⟩

end TypeText

end PseudoLint
