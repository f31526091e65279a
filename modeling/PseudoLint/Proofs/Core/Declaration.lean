import PseudoLint.Proofs.Core.Silence
import PseudoLint.Proofs.Rule.Declaration
import PseudoLint.Proofs.SymbolTable

/-! # Declarations of core programs

The line `DECLARE name : TYPE` declares one variable: its name is what stands before the colon, and
its type is what stands behind it. With a name that is new to the table the line is silent and binds
the name.
-/

namespace PseudoLint.Core

variable {scope : List Text}

namespace Phrase

/-- A line without literals is its own code. -/
theorem code_eq_text (number : Int) {phrase : Phrase scope}
    (plain : phrase.keyword? ≠ some .output) : (phrase.statement number).code = phrase.text := by
  rw [code_statement, ← text_eq_code plain, Text.trim, trimStart_text, phrase.solid.trimEnd_eq]

end Phrase

theorem BasicType.normalize_text (type : BasicType) :
    TypeText.normalize (' ' :: type.text) = type.text := by
  cases type <;> decide

/-- What a declaration declares: its variable, with its type. -/
theorem declaredNames?_declare (number : Int) (target : Variable scope) (type : BasicType) :
    Rule.declaredNames? ((Phrase.declare target type).statement number) =
      some ([target.text], type.text) := by
  have plain : (Phrase.declare target type).keyword? ≠ some .output := by
    intro kind
    cases kind
  have read := Rule.declaredNames?_of_code target.toName.isName (Phrase.code_eq_text number plain)
  rwa [type.normalize_text] at read

/-- A name that is new to the table is bound without a finding. -/
theorem declareNames_declare (number : Int) (target : Variable scope) (type : BasicType)
    {table : SymbolTable} (fresh : table.isDeclared target.text = false) :
    Rule.declareNames ((Phrase.declare target type).statement number) table =
      (table.bind ⟨target.text, type.text, number, .variable⟩, []) := by
  have absent : table.resolve? target.text = none := by
    simpa [SymbolTable.isDeclared] using fresh
  simp only [Rule.declareNames, declaredNames?_declare, Rule.declareVariables, Rule.declareVariable,
    target.notReserved, SymbolTable.define, absent, Bool.false_eq_true, ↓reduceIte, List.append_nil]
  rfl

theorem declarationFormFindings_declare (number : Int) (target : Variable scope)
    (type : BasicType) :
    Rule.declarationFormFindings ((Phrase.declare target type).statement number) = [] := by
  have noArray : hasWord "ARRAY" ((Phrase.declare target type).statement number).code = false := by
    have array : ("ARRAY" : Text) ∈ otherWords :=
      List.mem_cons_of_mem _ <| List.mem_cons_of_mem _ <| List.mem_cons_of_mem _ <|
        List.mem_cons_of_mem _ List.mem_cons_self
    have word := isWord_of_isName (isName_of_mem_otherWords array)
    rw [Bool.eq_false_iff, Ne, hasWord_iff word.nonempty word.inside]
    exact fun found => (Phrase.lawful_of_mem_wordRuns found).not_mem_otherWords array
  have noQuote : ((Phrase.declare target type).statement number).text.contains '"' = false := by
    rw [List.contains_eq_mem, decide_eq_false_iff_not]
    exact (Phrase.declare target type).not_quote_code
  simp only [Rule.declarationFormFindings, noArray, noQuote, Rule.whenever, Bool.and_false,
    Bool.false_eq_true, ↓reduceIte, List.append_nil]

/-- The line of a declaration is silent and binds its variable, if the name is new. -/
theorem declare_silent (number : Int) (target : Variable scope) (type : BasicType)
    {table : SymbolTable} (fresh : table.isDeclared target.text = false) :
    Rule.declareFindings ((Phrase.declare target type).statement number) table = [] ∧
      Rule.registered ((Phrase.declare target type).statement number) table =
        table.bind ⟨target.text, type.text, number, .variable⟩ := by
  have starts : ((Phrase.declare target type).statement number).startsWith "DECLARE" = true :=
    List.isPrefixOf_iff_prefix.mpr (List.prefix_append ..)
  constructor
  · simp only [Rule.declareFindings, starts, ↓reduceIte, declarationFormFindings_declare,
      declareNames_declare number target type fresh, List.append_nil]
  · simp only [Phrase.registered_eq_declareTable, Rule.declareTable, starts, ↓reduceIte,
      Phrase.array?_eq_none, declareNames_declare number target type fresh, Option.map_none,
      Option.getD_none]

end PseudoLint.Core
