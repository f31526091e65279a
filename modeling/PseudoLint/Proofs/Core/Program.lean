import PseudoLint.Proofs.Block.ExtraCloser
import PseudoLint.Proofs.Check.Quiet
import PseudoLint.Proofs.Config
import PseudoLint.Proofs.Core.Declaration
import PseudoLint.Proofs.Line
import PseudoLint.Proofs.Sweep

/-! # Core programs are accepted

Checking a core program gives no diagnostic, with every accepted configuration and at every size and
depth of nesting. Its lines are quiet because each declaration meets a table without its name and
every statement a table with all names; its first words are well nested by induction on the
statements; and the sweeps find nothing because each closing word has its opening line and every
counted loop a body.
-/

namespace PseudoLint.Core

open Nesting

variable {scope : List Text}

/-! ## First words of statements -/

/-- Words between an opening and a closing word. -/
def enclosed (opener closer : Text) (inner : List Text) : List Text :=
  opener :: (inner ++ [closer])

/-- The first words of the lines of some statements. -/
def Body.heads : Body scope → List Text
  | assign target _ => [target.text]
  | input _ => ["INPUT"]
  | output .. => ["OUTPUT"]
  | ifThen _ yes => enclosed "IF" "ENDIF" yes.heads
  | ifElse _ yes no => enclosed "IF" "ENDIF" (yes.heads ++ ("ELSE" : Text) :: no.heads)
  | whileLoop _ inner => enclosed "WHILE" "ENDWHILE" inner.heads
  | repeatLoop inner _ => enclosed "REPEAT" "UNTIL" inner.heads
  | forLoop _ _ _ inner => enclosed "FOR" "NEXT" inner.heads
  | seq first second => first.heads ++ second.heads

theorem Body.map_head_lines (body : Body scope) (depth : Nat) :
    (body.lines depth).map (·.2.head) = body.heads := by
  induction body generalizing depth with
  | assign target value => rfl
  | input target => rfl
  | output first others => rfl
  | ifElse test yes no yesHeads noHeads =>
    simp only [Body.lines, List.map_cons, List.map_append, List.map_nil, yesHeads, noHeads,
      Body.heads, enclosed, List.append_assoc, List.cons_append]
    rfl
  | seq first second firstHeads secondHeads =>
    simp only [Body.lines, List.map_append, firstHeads, secondHeads, Body.heads]
  | ifThen test inner ih | whileLoop test inner ih | repeatLoop inner test ih
  | forLoop counter first last inner ih =>
    simp only [Body.lines, List.map_cons, List.map_append, List.map_nil, ih, Body.heads]
    rfl

/-- Block words are reserved, so no name is one. -/
theorem Name.not_isBlockWord (name : Name) : isBlockWord name.text = false := by
  have reserved : ∀ entry ∈ Keyword.blocks,
      Keyword.isReserved entry.1 = true ∧ Keyword.isReserved entry.2 = true := by decide
  have free := name.notReserved
  rw [isBlockWord, Bool.or_eq_false_iff]
  constructor
  · rw [Bool.eq_false_iff]
    intro opens
    obtain ⟨closer, closes⟩ := Option.isSome_iff_exists.mp opens
    rw [(reserved _ (mem_blocks_of_closer? closes)).1] at free
    cases free
  · rw [Bool.eq_false_iff]
    intro closes
    obtain ⟨entry, member, same⟩ := List.mem_map.mp (List.contains_iff_mem.mp closes)
    rw [← same, (reserved entry member).2] at free
    cases free

theorem wellNested_block {opener closer : Text} {inner : List Text}
    (closes : Keyword.closer? opener = some closer)
    (inside : WellNested (inner.filter isBlockWord)) :
    WellNested ((enclosed opener closer inner).filter isBlockWord) := by
  have opens : isBlockWord opener = true := by
    rw [isBlockWord, isOpener_of_closer? closes, Bool.true_or]
  have ends : isBlockWord closer = true := by
    rw [isBlockWord, isCloser_of_closer? closes, Bool.or_true]
  rw [enclosed, List.filter_cons, if_pos opens, List.filter_append, List.filter_cons, if_pos ends]
  exact .block closes inside .nil

/-- The first words of statements are well nested. -/
theorem Body.wellNested (body : Body scope) : WellNested (body.heads.filter isBlockWord) := by
  have plain : isBlockWord "INPUT" = false ∧ isBlockWord "OUTPUT" = false ∧
      isBlockWord "ELSE" = false := by decide
  have closers : Keyword.closer? "IF" = some "ENDIF" ∧ Keyword.closer? "WHILE" = some "ENDWHILE" ∧
      Keyword.closer? "REPEAT" = some "UNTIL" ∧ Keyword.closer? "FOR" = some "NEXT" := by
    decide
  have single {word : Text} (other : isBlockWord word = false) :
      WellNested ([word].filter isBlockWord) := by
    rw [List.filter_cons, other]
    exact .nil
  induction body with
  | assign target value => exact single target.toName.not_isBlockWord
  | input target => exact single plain.1
  | output first others => exact single plain.2.1
  | ifThen test yes ih => exact wellNested_block closers.1 ih
  | ifElse test yes no yesNested noNested =>
    apply wellNested_block closers.1
    rw [List.filter_append, List.filter_cons, plain.2.2]
    exact yesNested.append noNested
  | whileLoop test inner ih => exact wellNested_block closers.2.1 ih
  | repeatLoop inner test ih => exact wellNested_block closers.2.2.1 ih
  | forLoop counter first last inner ih => exact wellNested_block closers.2.2.2 ih
  | seq first second firstNested secondNested =>
    rw [Body.heads, List.filter_append]
    exact firstNested.append secondNested

/-! ## Loops have a body -/

theorem filled_cons {word : Text} {later : List Text} (other : word ≠ "FOR")
    (filled : Sweep.Filled later) : Sweep.Filled (word :: later) := by
  cases later with
  | nil => trivial
  | cons next rest => exact ⟨fun same => absurd same other, filled⟩

/-- Statements begin with a line that closes no counted loop. -/
theorem Body.exists_head (body : Body scope) :
    ∃ first rest, body.heads = first :: rest ∧ first ≠ "NEXT" := by
  induction body with
  | assign target value => exact ⟨_, _, rfl, target.toName.text_ne .nextWord⟩
  | input target => exact ⟨_, _, rfl, CoreWord.text_ne .input .nextWord (by decide)⟩
  | output first others => exact ⟨_, _, rfl, CoreWord.text_ne .output .nextWord (by decide)⟩
  | ifThen test yes _ => exact ⟨_, _, rfl, CoreWord.text_ne .ifWord .nextWord (by decide)⟩
  | ifElse test yes no _ _ => exact ⟨_, _, rfl, CoreWord.text_ne .ifWord .nextWord (by decide)⟩
  | whileLoop test inner _ => exact ⟨_, _, rfl, CoreWord.text_ne .whileWord .nextWord (by decide)⟩
  | repeatLoop inner test _ => exact ⟨_, _, rfl, CoreWord.text_ne .repeatWord .nextWord (by decide)⟩
  | forLoop counter first last inner _ =>
    exact ⟨_, _, rfl, CoreWord.text_ne .forWord .nextWord (by decide)⟩
  | seq first second ih _ =>
    obtain ⟨word, rest, split, other⟩ := ih
    exact ⟨word, rest ++ second.heads, by rw [Body.heads, split, List.cons_append], other⟩

/-- A body in front of its closing word, which is in front of the rest. -/
theorem filled_enclosed (opener closer : CoreWord) (opens : opener ≠ .forWord)
    (closes : closer ≠ .forWord) {inner later : List Text} (behind : Sweep.Filled later)
    (inside : ∀ {later : List Text}, Sweep.Filled later → Sweep.Filled (inner ++ later)) :
    Sweep.Filled (enclosed opener.text closer.text inner ++ later) := by
  rw [enclosed, List.cons_append, List.append_assoc]
  apply filled_cons (CoreWord.text_ne opener .forWord opens)
  exact inside (filled_cons (CoreWord.text_ne closer .forWord closes) behind)

/-- In front of whatever lines follow, statements have no counted loop without a body. -/
theorem Body.filled (body : Body scope) {later : List Text} (behind : Sweep.Filled later) :
    Sweep.Filled (body.heads ++ later) := by
  induction body generalizing later with
  | assign target value => exact filled_cons (target.toName.text_ne .forWord) behind
  | input target => exact filled_cons (CoreWord.text_ne .input .forWord (by decide)) behind
  | output first others => exact filled_cons (CoreWord.text_ne .output .forWord (by decide)) behind
  | ifThen test yes ih =>
    exact filled_enclosed .ifWord .endIf (by decide) (by decide) behind ih
  | ifElse test yes no yesFilled noFilled =>
    apply filled_enclosed .ifWord .endIf (by decide) (by decide) behind
    intro later behind
    rw [List.append_assoc]
    have between := filled_cons (CoreWord.text_ne .elseWord .forWord (by decide)) (noFilled behind)
    exact yesFilled between
  | whileLoop test inner ih =>
    exact filled_enclosed .whileWord .endWhile (by decide) (by decide) behind ih
  | repeatLoop inner test ih =>
    exact filled_enclosed .repeatWord .untilWord (by decide) (by decide) behind ih
  | forLoop counter first last inner ih =>
    obtain ⟨word, rest, split, other⟩ := inner.exists_head
    have inside := ih (filled_cons (CoreWord.text_ne .nextWord .forWord (by decide)) behind)
    rw [Body.heads, enclosed, List.cons_append, List.append_assoc, split]
    rw [split] at inside
    exact ⟨fun _ => other, inside⟩
  | seq first second firstFilled secondFilled =>
    rw [Body.heads, List.append_assoc]
    exact firstFilled (secondFilled behind)

theorem filled_declarations (declarations : List Declaration) {later : List Text}
    (behind : Sweep.Filled later) :
    Sweep.Filled (declarations.map (·.phrase.head) ++ later) := by
  induction declarations with
  | nil => exact behind
  | cons declaration rest ih =>
    exact filled_cons (CoreWord.text_ne .declare .forWord (by decide)) ih

/-! ## Quiet lines -/

theorem Phrase.indented_zero (unit : Nat) (phrase : Phrase scope) :
    phrase.indented unit 0 = phrase.text := by
  rw [Phrase.indented, Nat.zero_mul, List.replicate_zero, List.nil_append]

/-- An indented line is quiet if its declaration rule is and its variables are declared. -/
theorem Phrase.quiet {config : Config} {unit : Nat} (unit_eq : config.indentUnit = unit)
    (number : Int) (depth : Nat) (phrase : Phrase scope) {table : SymbolTable}
    (silent : Rule.declareFindings (phrase.statement number) table = [])
    (declared : ∀ used : Variable scope,
      (Rule.registered (phrase.statement number) table).isDeclared used.text = true) :
    Check.Quiet config ⟨number, phrase.indented unit depth⟩ table where
  layout := by
    have multiple : Int.fmod ((depth * unit : Nat) : Int) (unit : Int) = 0 := by
      rw [Int.natCast_mul, Int.mul_fmod_left]
    simp only [Rule.layoutFindings, Phrase.indent_indented, unit_eq, multiple, Rule.whenever]
    rfl
  wording := by rw [Phrase.statement_indented, Phrase.wordingFindings_eq_nil]
  unknown := by rw [Phrase.statement_indented, Phrase.unknownWordFindings_eq_nil]
  later := by
    rw [Phrase.statement_indented, phrase.laterFindings_eq_nil config number silent declared]

/-- No line of statements declares a variable. -/
theorem Body.keyword?_ne_declare (body : Body scope) (depth : Nat) :
    ∀ line ∈ body.lines depth, line.2.keyword? ≠ some .declare := by
  induction body generalizing depth with
  | assign | input | output => simp [Body.lines, Phrase.keyword?]
  | ifThen test inner ih | whileLoop test inner ih | repeatLoop inner test ih
  | forLoop counter first last inner ih =>
    simpa [Body.lines, or_imp, forall_and, Phrase.keyword?] using ih (depth + 1)
  | ifElse test yes no yesOther noOther =>
    simpa [Body.lines, or_imp, forall_and, Phrase.keyword?] using
      And.intro (yesOther (depth + 1)) (noOther (depth + 1))
  | seq first second firstOther secondOther =>
    simp only [Body.lines, List.forall_mem_append]
    exact ⟨firstOther depth, secondOther depth⟩

/-- Statements are quiet once all variables are declared. -/
theorem silent_statements {config : Config} {unit : Nat} (unit_eq : config.indentUnit = unit)
    {table : SymbolTable} (declared : ∀ used : Variable scope, table.isDeclared used.text = true)
    {lines : List (Nat × Phrase scope)} (others : ∀ line ∈ lines, line.2.keyword? ≠ some .declare)
    (number : Int) :
    Check.Silent config (Line.enumerate number (lines.map fun line => line.2.indented unit line.1))
      table := by
  induction lines generalizing number with
  | nil => trivial
  | cons line rest ih =>
    have other := others line List.mem_cons_self
    have same := Phrase.registered_of_not_declare number other table
    have quiet : Check.Quiet config ⟨number, line.2.indented unit line.1⟩ table := by
      apply Phrase.quiet unit_eq
      · exact Phrase.declareFindings_of_not_declare number other table
      · rw [same]
        exact declared
    refine ⟨quiet, ?_⟩
    rw [Phrase.statement_indented, same]
    exact ih (fun line member => others line (List.mem_cons_of_mem _ member)) (number + 1)

/-- The symbol that a declaration on a line binds. -/
def Declaration.symbol (declaration : Declaration) (number : Int) : Symbol :=
  ⟨declaration.name.text, declaration.type.text, number, .variable⟩

/-- The declaration of a new name is quiet and binds it. -/
theorem Declaration.quiet {config : Config} {unit : Nat} (unit_eq : config.indentUnit = unit)
    (number : Int) (declaration : Declaration) {keys : List Text} {table : SymbolTable}
    (declares : table.Declares keys) (fresh : declaration.key ∉ keys) :
    Check.Quiet config ⟨number, declaration.phrase.text⟩ table ∧
      Rule.registered (Line.mk number declaration.phrase.text).statement table =
        table.bind (declaration.symbol number) := by
  have new : table.isDeclared declaration.name.text = false := by
    rw [Bool.eq_false_iff, Ne, declares]
    exact fresh
  let target : Variable [declaration.key] := ⟨declaration.name, List.mem_cons_self⟩
  obtain ⟨silent, bound⟩ := declare_silent number target declaration.type new
  rw [← Phrase.indented_zero unit, Phrase.statement_indented]
  refine ⟨Phrase.quiet unit_eq number 0 declaration.phrase silent ?_, bound⟩
  intro used
  have same : used.text.lower = declaration.key := List.mem_singleton.mp used.declared
  have after := declares.bind (declaration.symbol number)
  rw [Declaration.phrase, bound]
  apply (after used.text).mpr
  rw [same]
  exact List.mem_cons_self

/-- Declarations with different new names are quiet, and what follows them meets a table in which
all of them are declared. -/
theorem silent_declarations {config : Config} {unit : Nat} (unit_eq : config.indentUnit = unit)
    {declarations : List Declaration} {keys : List Text} {table : SymbolTable} {number : Int}
    {raws : List Text} (declares : table.Declares keys)
    (distinct : (declarations.map Declaration.key).Nodup)
    (fresh : ∀ declaration ∈ declarations, declaration.key ∉ keys)
    (behind : ∀ number table, table.Declares ((declarations.map Declaration.key).reverse ++ keys) →
      Check.Silent config (Line.enumerate number raws) table) :
    Check.Silent config
      (Line.enumerate number (declarations.map (·.phrase.text) ++ raws)) table := by
  induction declarations generalizing keys table number with
  | nil => exact behind number table declares
  | cons declaration rest ih =>
    rw [List.map_cons, List.nodup_cons] at distinct
    obtain ⟨quiet, bound⟩ :=
      declaration.quiet unit_eq number declares (fresh declaration List.mem_cons_self)
    refine ⟨quiet, ?_⟩
    rw [bound]
    apply ih (declares.bind (declaration.symbol number)) distinct.2
    · intro other member same
      rcases List.mem_cons.mp same with repeated | old
      · exact distinct.1 (List.mem_map.mpr ⟨other, member, repeated⟩)
      · exact fresh other (List.mem_cons_of_mem _ member) old
    · intro number table declared
      apply behind
      rwa [List.map_cons, List.reverse_cons, List.append_assoc, List.singleton_append]

/-! ## Programs -/

theorem Phrase.spaced {phrase : Phrase scope} {family : Text × Text}
    (member : family ∈ Sweep.families) (opens : phrase.head ++ [' '] = family.2) :
    phrase.text.startsWith family.2 = true := by
  rw [← opens]
  apply List.isPrefixOf_iff_prefix.mpr
  rcases phrase.tail_cases with alone | ⟨rest, continues⟩
  · -- A line of one word opens no block of a family.
    have apart : ∀ family ∈ Sweep.families, ∀ word ∈
        [CoreWord.elseWord, .endIf, .endWhile, .repeatWord], word.text ++ [' '] ≠ family.2 := by
      decide
    have single : ∀ word ∈ [CoreWord.elseWord, .endIf, .endWhile, .repeatWord],
        phrase.head = word.text → phrase.head ++ [' '] <+: phrase.text := by
      intro word one head
      exact absurd (head ▸ opens) (apart family member word one)
    cases phrase with
    | otherwise => exact single .elseWord (by decide) rfl
    | endIf => exact single .endIf (by decide) rfl
    | endWhile => exact single .endWhile (by decide) rfl
    | repeatBody => exact single .repeatWord (by decide) rfl
    | _ => cases alone
  · refine ⟨rest, ?_⟩
    rw [Phrase.text, continues, List.append_assoc, List.singleton_append]

namespace Program

/-- The first words of the lines of a program. -/
def heads (program : Program) : List Text :=
  program.declarations.map (·.phrase.head) ++ (program.body.map Body.heads).getD []

theorem exists_phrase {program : Program} {unit : Nat} {raw : Text}
    (member : raw ∈ program.lines unit) :
    ∃ (scope : List Text) (phrase : Phrase scope) (depth : Nat),
      raw = phrase.indented unit depth := by
  rcases List.mem_append.mp member with declared | stated
  · obtain ⟨declaration, -, rfl⟩ := List.mem_map.mp declared
    exact ⟨_, declaration.phrase, 0, (Phrase.indented_zero unit _).symm⟩
  · obtain ⟨line, -, rfl⟩ := List.mem_map.mp stated
    exact ⟨_, line.2, line.1, rfl⟩

theorem lines_ne_nil (program : Program) (unit : Nat) : program.lines unit ≠ [] := by
  intro empty
  obtain ⟨noDeclaration, noStatement⟩ := List.append_eq_nil_iff.mp empty
  rw [List.map_eq_nil_iff] at noDeclaration noStatement
  rcases program.nonempty with declared | stated
  · exact declared noDeclaration
  · obtain ⟨body, present⟩ := Option.isSome_iff_exists.mp stated
    obtain ⟨first, rest, split, -⟩ := body.exists_head
    rw [statementLines, present, Option.map_some, Option.getD_some] at noStatement
    rw [← body.map_head_lines 0, noStatement] at split
    cases split

theorem ofSource_source (program : Program) (unit : Nat) :
    Line.ofSource (program.source unit) = Line.enumerate 1 (program.lines unit) := by
  apply Line.ofSource_join (program.lines_ne_nil unit)
  intro raw member
  obtain ⟨scope, phrase, depth, rfl⟩ := exists_phrase member
  rw [Phrase.indented, List.mem_append, List.mem_replicate]
  rintro (⟨-, space⟩ | inside)
  · cases space
  · exact phrase.not_newline_text inside

/-- Every line of a program carries a phrase. -/
theorem exists_statement {program : Program} {unit : Nat} {line : Line}
    (member : line ∈ Line.ofSource (program.source unit)) :
    ∃ (scope : List Text) (phrase : Phrase scope),
      line.statement = phrase.statement line.number := by
  rw [ofSource_source] at member
  obtain ⟨scope, phrase, depth, raw⟩ := exists_phrase (Line.raw_mem_of_mem_enumerate member)
  refine ⟨scope, phrase, ?_⟩
  have split : line = ⟨line.number, phrase.indented unit depth⟩ := by rw [← raw]
  rw [split, Phrase.statement_indented]

theorem contentOf_source (program : Program) (unit : Nat) :
    Line.contentOf (program.source unit) = Line.ofSource (program.source unit) := by
  rw [Line.contentOf, List.filter_eq_self]
  intro line member
  obtain ⟨scope, phrase, carried⟩ := exists_statement member
  rw [Line.isContent, carried, phrase.isContent_statement]

theorem anyContent_source (program : Program) (unit : Nat) :
    Line.anyContent (Line.ofSource (program.source unit)) = true := by
  have whole := program.contentOf_source unit
  obtain ⟨raw, rest, split⟩ := List.exists_cons_of_ne_nil (program.lines_ne_nil unit)
  have first : Line.mk 1 raw ∈ Line.ofSource (program.source unit) := by
    rw [ofSource_source, split]
    exact List.mem_cons_self
  exact List.any_eq_true.mpr ⟨_, Line.mem_contentOf.mp (whole ▸ first)⟩

theorem firstWords_source (program : Program) (unit : Nat) :
    (Line.ofSource (program.source unit)).map (·.statement.firstWord) = program.heads := by
  have read {scope : List Text} (phrase : Phrase scope) (depth : Nat) :
      (Line.mk 0 (phrase.indented unit depth)).statement.firstWord = phrase.head := by
    rw [Phrase.statement_indented, phrase.firstWord_statement]
  have declared (declaration : Declaration) :
      (Line.mk 0 declaration.phrase.text).statement.firstWord = declaration.phrase.head := by
    rw [← Phrase.indented_zero unit, read]
  have stated : program.statementLines.map (·.2.head) = (program.body.map Body.heads).getD [] := by
    rw [statementLines]
    cases program.body with
    | none => rfl
    | some body => exact body.map_head_lines 0
  have numbered : (Line.enumerate 1 (program.lines unit)).map (·.statement.firstWord) =
      (program.lines unit).map fun raw => (Line.mk 0 raw).statement.firstWord :=
    Line.map_enumerate (fun _ _ => rfl) 1 _
  rw [ofSource_source, numbered, lines, List.map_append, List.map_map, List.map_map, heads,
    ← stated]
  simp only [Function.comp_def, declared, read]

/-! ## The check of a program -/

theorem filled_heads (program : Program) : Sweep.Filled program.heads := by
  apply filled_declarations
  cases program.body with
  | none => trivial
  | some body =>
    have filled : Sweep.Filled (body.heads ++ []) := body.filled trivial
    rwa [List.append_nil] at filled

theorem wellNested_heads (program : Program) :
    WellNested (program.heads.filter isBlockWord) := by
  have declared : (program.declarations.map (·.phrase.head)).filter isBlockWord = [] := by
    have plain : isBlockWord "DECLARE" = false := by decide
    rw [List.filter_eq_nil_iff]
    intro word member
    obtain ⟨declaration, -, rfl⟩ := List.mem_map.mp member
    exact Bool.eq_false_iff.mp plain
  rw [heads, List.filter_append, declared, List.nil_append]
  cases program.body with
  | none => exact .nil
  | some body => exact body.wellNested

theorem wellNested_source (program : Program) (unit : Nat) :
    WellNested (blockWords (Line.contentOf (program.source unit))) := by
  rw [contentOf_source, blockWords, firstWords_source]
  exact program.wellNested_heads

/-- What the sweeps look at. -/
def statements (program : Program) (unit : Nat) : List Statement :=
  (Line.ofSource (program.source unit)).map Line.statement

theorem exists_phrase_of_mem_statements {program : Program} {unit : Nat} {statement : Statement}
    (member : statement ∈ program.statements unit) :
    ∃ (scope : List Text) (phrase : Phrase scope),
      statement = phrase.statement statement.line := by
  obtain ⟨line, present, rfl⟩ := List.mem_map.mp member
  exact exists_statement present

theorem extraClosers_statements (program : Program) (unit : Nat) :
    Sweep.extraClosers (program.statements unit) = [] := by
  apply Sweep.extraClosers_eq_nil
  · intro line member family present opens
    obtain ⟨scope, phrase, same⟩ := exists_statement member
    rw [same, phrase.firstWord_statement] at opens
    rw [same]
    exact Phrase.spaced present opens
  · exact program.wellNested_source unit

theorem endfors_statements (program : Program) (unit : Nat) :
    Sweep.endfors (program.statements unit) = [] := by
  apply Sweep.endfors_eq_nil
  intro statement member
  obtain ⟨scope, phrase, same⟩ := exists_phrase_of_mem_statements member
  rw [same]
  exact phrase.not_startsWith_endfor _

theorem lengths_statements (program : Program) (unit : Nat) (table : SymbolTable) :
    Sweep.lengths table (program.statements unit) = [] := by
  apply Sweep.lengths_eq_nil
  intro statement member
  obtain ⟨scope, phrase, same⟩ := exists_phrase_of_mem_statements member
  rw [same]
  exact phrase.not_mem_code_statement _ (by decide) (by decide)

theorem emptyFors_statements (program : Program) (unit : Nat) :
    Sweep.emptyFors (program.statements unit) = [] := by
  apply Sweep.emptyFors_eq_nil
  · intro statement member
    obtain ⟨scope, phrase, same⟩ := exists_phrase_of_mem_statements member
    rw [same, phrase.isContent_statement]
  · intro statement member header
    obtain ⟨scope, phrase, same⟩ := exists_phrase_of_mem_statements member
    rw [same] at header
    rw [same, phrase.firstWord_statement]
    have starts : phrase.text.startsWith (("FOR" : Text) ++ ' ' :: []) = true := by
      have split : ("FOR " : Text) = ("FOR" : Text) ++ ' ' :: [] := by simp
      rw [← split]
      exact (Bool.and_eq_true_iff.mp header).1
    exact Phrase.head_eq_of_startsWith (CoreWord.forWord.isWord.not_mem (by decide)) starts
  · rw [statements, List.map_map]
    have filled := program.filled_heads
    rw [← program.firstWords_source unit] at filled
    exact filled

theorem sweeps_eq_nil (program : Program) (unit : Nat) (table : SymbolTable) :
    Sweep.all table (program.statements unit) = [] := by
  rw [Sweep.all, extraClosers_statements, endfors_statements, lengths_statements,
    emptyFors_statements]
  rfl

theorem silent_source {config : Config} {unit : Nat} (unit_eq : config.indentUnit = unit)
    (program : Program) : Check.Silent config (Line.contentOf (program.source unit)) {} := by
  rw [contentOf_source, ofSource_source]
  apply silent_declarations unit_eq SymbolTable.declares_nil program.distinct
  · intro declaration _ present
    cases present
  · intro number table declares
    apply silent_statements unit_eq
    · intro used
      rw [declares, List.append_nil, List.mem_reverse]
      exact used.declared
    · unfold statementLines
      cases program.body with
      | none =>
        intro line member
        cases member
      | some body => exact body.keyword?_ne_declare 0

/-- No number of a program is too long, since it has neither bounds nor indices and its layout gives
nothing to report. -/
theorem readable_source {config : Config} {unit : Nat} (unit_eq : config.indentUnit = unit)
    (program : Program) :
    ∀ line ∈ Line.contentOf (program.source unit), ¬ line.Overlong config := by
  intro line member
  obtain ⟨scope, phrase, carried⟩ := exists_statement (Line.mem_contentOf.mp member).1
  have layout := (program.silent_source unit_eq).layout line member
  rw [Line.overlong_iff_of_layout layout, carried]
  exact phrase.not_overlong line.number

/-- Every core program is accepted without a diagnostic, whatever the configuration. -/
theorem accepted_without_diagnostics {json : Json} {config : Config}
    (accepted : Config.ofJson json = .ok config) (program : Program) :
    ∃ check, Check.run config (program.source config.indentUnit.toNat) = .ok check ∧
      check.isValid = true ∧ check.diagnostics = [] := by
  have positive := Config.indentUnit_pos accepted
  have unit_eq : config.indentUnit = config.indentUnit.toNat := by omega
  have nonzero : config.indentUnit ≠ 0 := by omega
  have ran := Check.run_of_readable nonzero (program.readable_source unit_eq)
  have emitted := Check.emitted_eq_nil (program.anyContent_source _)
    (program.silent_source unit_eq) (program.wellNested_source _) (program.sweeps_eq_nil _)
  have nothing :
      (Check.outcome config (program.source config.indentUnit.toNat)).diagnostics = [] := by
    rw [Check.diagnostics, emitted]
    rfl
  refine ⟨_, ran, ?_, nothing⟩
  rw [Check.isValid, nothing]
  rfl

/-- A loop over a variable whose name begins with a reserved word. -/
def counting : Program :=
  let index : Name := ⟨"IFx", by decide, by decide, by decide, by decide⟩
  let nine : Number := ⟨"9", by decide, List.all_eq_true.mp (by decide)⟩
  { declarations := [⟨index, .integer⟩]
    body := some
      (.seq
        (.repeatLoop
          (.assign ⟨index, by decide⟩ ⟨.name ⟨index, by decide⟩, [(.plus, .number nine)]⟩)
          ⟨⟨.name ⟨index, by decide⟩, []⟩, .greaterEqual, ⟨.number nine, []⟩⟩)
        (.output (.quotation ⟨"IF = //", by decide, by decide, by decide⟩)
          [.value ⟨.name ⟨index, by decide⟩, []⟩]))
    distinct := by decide
    nonempty := by decide }

/-- Neither the name nor what is quoted misleads the check. -/
theorem counting_accepted :
    Config.ofJson (.obj [("indent_unit", .int 2)]) = .ok { indentUnit := 2 } ∧
    counting.source 2 =
      "DECLARE IFx : INTEGER\nREPEAT\n  IFx ← IFx + 9\nUNTIL IFx >= 9\nOUTPUT \"IF = //\", IFx" ∧
    ∃ check, Check.run { indentUnit := 2 } (counting.source 2) = .ok check ∧
      check.isValid = true ∧ check.diagnostics = [] := by
  have accepted : Config.ofJson (.obj [("indent_unit", .int 2)]) = .ok { indentUnit := 2 } := rfl
  refine ⟨accepted, ?_, accepted_without_diagnostics accepted counting⟩
  rw [String.toList_ofList]
  decide +kernel

/-- Each of the beginnings that names avoid misleads the check of some program. -/
example : ∀ beginning ∈ lineBeginnings,
    (Check.run {} ("DECLARE FORTY : REAL\nDECLARE " ++ beginning ++
      "x : REAL\nFOR FORTY ← 1 TO 9\n   " ++ beginning ++
        "x ← FORTY\nNEXT FORTY")).toOption.map (·.diagnostics.isEmpty) = some false := by
  decide +kernel

end Program

end PseudoLint.Core
