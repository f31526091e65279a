import PseudoLint.Proofs.Core.Syntax
import PseudoLint.Proofs.Identifier
import PseudoLint.Proofs.Literal

/-! # How core programs are written

Once its string literals are taken out, a line of a core program is made of words and a few signs,
and each word is a reserved word in capitals, a number or a declared name. This module proves that
of every line, by composition: a sign between two such texts makes one such text.
-/

namespace PseudoLint.Core

variable {scope : List Text}

/-! ## Words -/

/-- A non-empty run of word characters. -/
structure IsWord (text : Text) : Prop where
  nonempty : text ≠ []
  inside : ∀ c ∈ text, isWordChar c = true

theorem IsWord.not_mem {text : Text} {c : Char} (word : IsWord text)
    (between : isWordChar c = false) : c ∉ text := by
  intro member
  rw [word.inside c member] at between
  cases between

/-- The reserved words that core programs use. -/
inductive CoreWord where
  | declare
  | type (type : BasicType)
  | input
  | output
  | ifWord
  | thenWord
  | elseWord
  | endIf
  | whileWord
  | endWhile
  | repeatWord
  | untilWord
  | forWord
  | toWord
  | nextWord
deriving DecidableEq, Repr

namespace CoreWord

def text : CoreWord → Text
  | declare => "DECLARE"
  | type basic => basic.text
  | input => "INPUT"
  | output => "OUTPUT"
  | ifWord => "IF"
  | thenWord => "THEN"
  | elseWord => "ELSE"
  | endIf => "ENDIF"
  | whileWord => "WHILE"
  | endWhile => "ENDWHILE"
  | repeatWord => "REPEAT"
  | untilWord => "UNTIL"
  | forWord => "FOR"
  | toWord => "TO"
  | nextWord => "NEXT"

/-- All words, so that facts about their letters can be computed. -/
def all : List CoreWord :=
  [declare, type .integer, type .real, type .string, type .char, type .boolean, type .date, input,
    output, ifWord, thenWord, elseWord, endIf, whileWord, endWhile, repeatWord, untilWord, forWord,
    toWord, nextWord]

theorem mem_all (word : CoreWord) : word ∈ all := by
  cases word with
  | type basic => cases basic <;> decide
  | _ => decide

end CoreWord

/-- Reserved words that change the meaning of a line and that core programs do not use. -/
def otherWords : List Text :=
  ["FUNCTION", "PROCEDURE", "CASE", "CALL", "ARRAY"]

namespace CoreWord

/-- All that depends on the letters of the words, so that they are looked at only once. -/
private theorem table : ∀ word ∈ all,
    (isName word.text = true ∧ word.text.upper = word.text ∧ word.text ∈ Keyword.reserved) ∧
    (Keyword.isForeign word.text = false ∧ word.text ∉ otherWords) ∧
    (∀ other ∈ all, word.text = other.text → word = other) ∧
    ∀ start ∈ lineBeginnings, word.text.startsWith start = true →
      start = "DECLARE" ∧ word = .declare := by
  decide +kernel

theorem isName (word : CoreWord) : isName word.text = true :=
  (table word word.mem_all).1.1

theorem upper_text (word : CoreWord) : word.text.upper = word.text :=
  (table word word.mem_all).1.2.1

theorem mem_reserved (word : CoreWord) : word.text ∈ Keyword.reserved :=
  (table word word.mem_all).1.2.2

theorem isReserved (word : CoreWord) : Keyword.isReserved word.text = true := by
  rw [Keyword.isReserved, word.upper_text]
  exact List.contains_iff_mem.mpr word.mem_reserved

theorem not_isForeign (word : CoreWord) : Keyword.isForeign word.text = false :=
  (table word word.mem_all).2.1.1

theorem not_mem_otherWords (word : CoreWord) : word.text ∉ otherWords :=
  (table word word.mem_all).2.1.2

theorem text_injective {first second : CoreWord} (same : first.text = second.text) :
    first = second :=
  (table first first.mem_all).2.2.1 second second.mem_all same

theorem text_ne (first second : CoreWord) (different : first ≠ second) : first.text ≠ second.text :=
  fun same => different (text_injective same)

/-- Of the core words only the one of declarations begins a line of another kind. -/
theorem eq_declare_of_startsWith {word : CoreWord} {start : Text}
    (beginning : start ∈ lineBeginnings) (starts : word.text.startsWith start = true) :
    start = "DECLARE" ∧ word = .declare :=
  (table word word.mem_all).2.2.2 start beginning starts

end CoreWord

private theorem fixedWords : (∀ word ∈ otherWords, Keyword.isReserved word = true) ∧
    ∀ word ∈ otherWords ++ lineBeginnings, isName word = true := by
  decide +kernel

theorem isReserved_of_mem_otherWords {word : Text} (other : word ∈ otherWords) :
    Keyword.isReserved word = true :=
  fixedWords.1 word other

theorem isName_of_mem_otherWords {word : Text} (other : word ∈ otherWords) : isName word = true :=
  fixedWords.2 word (List.mem_append_left _ other)

theorem isName_of_mem_lineBeginnings {start : Text} (beginning : start ∈ lineBeginnings) :
    isName start = true :=
  fixedWords.2 start (List.mem_append_right _ beginning)

/-- The words that may stand in the code of a core program. -/
inductive Lawful (scope : List Text) : Text → Prop
  | keyword (word : CoreWord) : Lawful scope word.text
  | name (used : Variable scope) : Lawful scope used.text
  | number (written : Number) : Lawful scope written.digits

theorem Name.isName (name : Name) : isName name.text = true :=
  isName_of_isStrictName name.strict

theorem Number.isWord (number : Number) : IsWord number.digits :=
  ⟨number.nonempty, fun c member => isWordChar_of_isDecimal (number.decimal c member)⟩

/-- A name is a word. -/
theorem isWord_of_isName {text : Text} (named : isName text = true) : IsWord text := by
  refine ⟨?_, fun c member => isWordChar_of_isNameChar (isNameChar_of_mem named member)⟩
  rintro rfl
  cases named

theorem Name.isWord (name : Name) : IsWord name.text :=
  isWord_of_isName name.isName

theorem CoreWord.isWord (word : CoreWord) : IsWord word.text :=
  isWord_of_isName word.isName

theorem Lawful.isWord {word : Text} (lawful : Lawful scope word) : IsWord word := by
  cases lawful with
  | keyword word => exact word.isWord
  | name used => exact used.toName.isWord
  | number written => exact written.isWord

theorem Name.text_ne (name : Name) (word : CoreWord) : name.text ≠ word.text := by
  intro same
  have reserved := word.isReserved
  rw [← same, name.notReserved] at reserved
  cases reserved

/-- A number is no name. -/
theorem Number.not_isName (number : Number) : isName number.digits = false := by
  obtain ⟨digits, nonempty, decimal⟩ := number
  cases digits with
  | nil => exact absurd rfl nonempty
  | cons c rest =>
    rw [isName, not_isNameStart_of_isDecimal (decimal c List.mem_cons_self), Bool.false_and]

/-- Core programs do not use the other reserved words. -/
theorem Lawful.not_mem_otherWords {word : Text} (lawful : Lawful scope word) :
    word ∉ otherWords := by
  intro other
  cases lawful with
  | keyword word => exact word.not_mem_otherWords other
  | name used =>
    have reserved := isReserved_of_mem_otherWords other
    rw [used.notReserved] at reserved
    cases reserved
  | number written =>
    have named := isName_of_mem_otherWords other
    rw [written.not_isName] at named
    cases named

/-- A name in the code of a line is a reserved word in capitals or a variable in scope. -/
theorem Lawful.cases_of_isName {word : Text} (lawful : Lawful scope word)
    (named : isName word = true) :
    (∃ core : CoreWord, word = core.text) ∨ ∃ used : Variable scope, word = used.text := by
  cases lawful with
  | keyword core => exact .inl ⟨core, rfl⟩
  | name used => exact .inr ⟨used, rfl⟩
  | number written =>
    rw [written.not_isName] at named
    cases named

/-! ## Plain texts -/

/-- The signs of core programs apart from assignment and comparison. -/
def commonSigns : Text :=
  [' ', ',', ':', '+', '-', '*']

/-- All signs of core programs. -/
def coreSigns : Text :=
  commonSigns ++ [assignArrow, '=', '<', '>', '≠', '≤', '≥']

theorem not_isWordChar_of_mem_coreSigns {c : Char} (sign : c ∈ coreSigns) :
    isWordChar c = false := by
  have between : (coreSigns.all fun c => !isWordChar c) = true := by decide +kernel
  rw [← Bool.not_eq_true']
  exact List.all_eq_true.mp between c sign

theorem not_isWordChar_arrow : isWordChar assignArrow = false :=
  not_isWordChar_of_mem_coreSigns (by decide)

theorem Relation.mem_coreSigns {relation : Relation} {c : Char} (member : c ∈ relation.text) :
    c ∈ coreSigns := by
  have within : relation.text.all coreSigns.contains = true := by
    cases relation <;> decide
  exact List.contains_iff_mem.mp (List.all_eq_true.mp within c member)

/-- A text made of lawful words, the common signs and some more signs. -/
structure Plain (scope : List Text) (signs text : Text) : Prop where
  words : ∀ word ∈ wordRuns text, Lawful scope word
  chars : ∀ c ∈ text, isWordChar c = true ∨ c ∈ commonSigns ∨ c ∈ signs

namespace Plain

variable {signs left right : Text}

theorem nil (scope : List Text) (signs : Text) : Plain scope signs [] := by
  constructor
  · intro word member
    cases member
  · intro c member
    cases member

theorem word {text : Text} (lawful : Lawful scope text) (signs : Text) :
    Plain scope signs text := by
  obtain ⟨nonempty, inside⟩ := lawful.isWord
  constructor
  · intro found member
    rw [wordRuns_of_word nonempty inside, List.mem_singleton] at member
    rwa [member]
  · exact fun c member => .inl (inside c member)

/-- A sign between two plain texts. -/
theorem between {c : Char} (sign : c ∈ commonSigns ∨ c ∈ signs) (notWord : isWordChar c = false)
    (before : Plain scope signs left) (behind : Plain scope signs right) :
    Plain scope signs (left ++ c :: right) := by
  constructor
  · intro found member
    rw [wordRuns_append_cons notWord] at member
    rcases List.mem_append.mp member with first | second
    · exact before.words found first
    · exact behind.words found second
  · intro d member
    rcases List.mem_append.mp member with first | second
    · exact before.chars d first
    · rcases List.mem_cons.mp second with rfl | later
      · exact .inr sign
      · exact behind.chars d later

theorem spaced (before : Plain scope signs left) (behind : Plain scope signs right) :
    Plain scope signs (left ++ ' ' :: right) :=
  between (.inl (by decide)) (by decide) before behind

/-- A sign in front of a plain text. -/
theorem cons {c : Char} (sign : c ∈ commonSigns ∨ c ∈ signs) (notWord : isWordChar c = false)
    (behind : Plain scope signs right) : Plain scope signs (c :: right) :=
  between sign notWord (nil scope signs) behind

theorem space (behind : Plain scope signs right) : Plain scope signs (' ' :: right) :=
  spaced (nil scope signs) behind

/-- A character that is neither a word character nor a sign does not occur. -/
theorem not_mem {text : Text} {c : Char} (plain : Plain scope signs text)
    (notWord : isWordChar c = false) (notCommon : c ∉ commonSigns) (notSign : c ∉ signs) :
    c ∉ text := by
  intro member
  rcases plain.chars c member with inWord | common | sign
  · rw [notWord] at inWord
    cases inWord
  · exact notCommon common
  · exact notSign sign

end Plain

theorem Operand.lawful (operand : Operand scope) : Lawful scope operand.text := by
  cases operand with
  | name used => exact .name used
  | number written => exact .number written

theorem plain_append_joined {signs text : Text} (plain : Plain scope signs text)
    (others : List (Operator × Operand scope)) :
    Plain scope signs (text ++ others.flatMap joined) := by
  induction others generalizing text with
  | nil => simpa using plain
  | cons part rest ih =>
    rw [List.flatMap_cons, ← List.append_assoc]
    apply ih
    have operand := Plain.word part.2.lawful signs
    have sign : part.1.sign ∈ commonSigns ∧ isWordChar part.1.sign = false := by
      cases part.1 <;> decide
    exact plain.spaced (operand.space.cons (.inl sign.1) sign.2)

theorem Expr.plain (expr : Expr scope) (signs : Text) : Plain scope signs expr.text :=
  plain_append_joined (.word expr.first.lawful signs) expr.others

theorem Condition.plain (condition : Condition scope) :
    Plain scope condition.relation.text condition.text := by
  have notWord : ∀ c ∈ condition.relation.text, isWordChar c = false :=
    fun c member => not_isWordChar_of_mem_coreSigns (Relation.mem_coreSigns member)
  have relation : ∀ text : Text, text ⊆ condition.relation.text →
      Plain scope condition.relation.text text := by
    intro text within
    induction text with
    | nil => exact .nil scope _
    | cons c rest ih =>
      have sign : c ∈ condition.relation.text := within List.mem_cons_self
      exact (ih fun d member => within (List.mem_cons_of_mem _ member)).cons (.inr sign)
        (notWord c sign)
  exact (condition.left.plain _).spaced ((relation _ fun _ => id).spaced (condition.right.plain _))

/-! ## Lines without their literals -/

/-- An item without its literal. -/
def Item.code : Item scope → Text
  | .value expr => expr.text
  | .quotation _ => []

/-- One more item of a list, without its literal. -/
def Item.listedCode (item : Item scope) : Text :=
  ',' :: ' ' :: item.code

namespace Phrase

/-- A line after its first word, without its literals. -/
def codeTail : Phrase scope → Text
  | output first others => ' ' :: (first.code ++ others.flatMap Item.listedCode)
  | phrase => phrase.tail

/-- A line without its literals. -/
def code (phrase : Phrase scope) : Text :=
  phrase.head ++ phrase.codeTail

/-- The signs of a line that are not common to all. -/
def signs : Phrase scope → Text
  | assign .. | forRange .. => [assignArrow]
  | ifThen test | whileTest test | untilTest test => test.relation.text
  | _ => []

theorem tail_cases (phrase : Phrase scope) :
    phrase.tail = [] ∨ ∃ rest, phrase.tail = ' ' :: rest := by
  cases phrase with
  | otherwise | endIf | endWhile | repeatBody => exact .inl rfl
  | _ => exact .inr ⟨_, rfl⟩

theorem codeTail_cases (phrase : Phrase scope) :
    phrase.codeTail = [] ∨ ∃ rest, phrase.codeTail = ' ' :: rest := by
  cases phrase with
  | otherwise | endIf | endWhile | repeatBody => exact .inl rfl
  | _ => exact .inr ⟨_, rfl⟩

/-- The reserved word that begins a line other than an assignment. -/
def keyword? : Phrase scope → Option CoreWord
  | declare .. => some .declare
  | assign .. => none
  | input _ => some .input
  | output .. => some .output
  | ifThen _ => some .ifWord
  | otherwise => some .elseWord
  | endIf => some .endIf
  | whileTest _ => some .whileWord
  | endWhile => some .endWhile
  | repeatBody => some .repeatWord
  | untilTest _ => some .untilWord
  | forRange .. => some .forWord
  | next _ => some .nextWord

/-- A line begins with its reserved word, or it is an assignment. -/
theorem head_cases (phrase : Phrase scope) :
    (∃ word, phrase.keyword? = some word ∧ phrase.head = word.text) ∨
      ∃ target value, phrase = .assign target value := by
  cases phrase with
  | assign target value => exact .inr ⟨target, value, rfl⟩
  | _ => exact .inl ⟨_, rfl, rfl⟩

theorem head_lawful (phrase : Phrase scope) : Lawful scope phrase.head := by
  rcases phrase.head_cases with ⟨word, -, same⟩ | ⟨target, value, rfl⟩
  · rw [same]
    exact .keyword word
  · exact .name target

end Phrase

theorem Item.plain_code (item : Item scope) (signs : Text) : Plain scope signs item.code := by
  cases item with
  | value expr => exact expr.plain signs
  | quotation quoted => exact .nil scope signs

theorem plain_append_listedCode {signs text : Text} (plain : Plain scope signs text)
    (others : List (Item scope)) : Plain scope signs (text ++ others.flatMap Item.listedCode) := by
  induction others generalizing text with
  | nil => simpa using plain
  | cons item rest ih =>
    rw [List.flatMap_cons, ← List.append_assoc]
    exact ih (plain.between (.inl (by decide)) (by decide) (item.plain_code signs).space)

namespace Phrase

/-- Without its literals every line is plain. -/
theorem plain_code (phrase : Phrase scope) : Plain scope phrase.signs phrase.code := by
  have first : Plain scope phrase.signs phrase.head := .word phrase.head_lawful _
  have alone : Plain scope phrase.signs (phrase.head ++ []) := by rwa [List.append_nil]
  have arrow := not_isWordChar_arrow
  cases phrase with
  | declare target type =>
    have typed : Plain scope [] type.text := .word (.keyword (.type type)) []
    have colon : Plain scope [] (':' :: ' ' :: type.text) :=
      typed.space.cons (.inl (by decide)) (by decide)
    exact first.spaced ((Plain.word (.name target) _).spaced colon)
  | assign target value =>
    have assigned := (value.plain [assignArrow]).space.cons (.inr List.mem_cons_self) arrow
    exact first.spaced assigned
  | input target => exact first.spaced (.word (.name target) _)
  | output item others => exact first.spaced (plain_append_listedCode (item.plain_code _) others)
  | ifThen test => exact first.spaced (test.plain.spaced (.word (.keyword .thenWord) _))
  | whileTest test => exact first.spaced test.plain
  | untilTest test => exact first.spaced test.plain
  | forRange counter start stop =>
    have limit := (Plain.word (.keyword .toWord) [assignArrow]).spaced (stop.plain [assignArrow])
    have bounds := (start.plain [assignArrow]).spaced limit
    have range := bounds.space.cons (.inr List.mem_cons_self) arrow
    exact first.spaced ((Plain.word (.name counter) _).spaced range)
  | next counter => exact first.spaced (.word (.name counter) _)
  | otherwise => exact alone
  | endIf => exact alone
  | endWhile => exact alone
  | repeatBody => exact alone

theorem mem_coreSigns_of_mem_signs {phrase : Phrase scope} {c : Char} (sign : c ∈ phrase.signs) :
    c ∈ coreSigns := by
  have arrow : ∀ c ∈ [assignArrow], c ∈ coreSigns := by
    intro c member
    rw [List.mem_singleton.mp member]
    decide
  cases phrase with
  | assign target value => exact arrow c sign
  | forRange counter start stop => exact arrow c sign
  | ifThen test => exact Relation.mem_coreSigns sign
  | whileTest test => exact Relation.mem_coreSigns sign
  | untilTest test => exact Relation.mem_coreSigns sign
  | _ => cases sign

/-- A character that is neither a word character nor a sign of core programs is not in the code of
a line. -/
theorem not_mem_code (phrase : Phrase scope) {c : Char} (notWord : isWordChar c = false)
    (notSign : c ∉ coreSigns) : c ∉ phrase.code :=
  phrase.plain_code.not_mem notWord (fun common => notSign (List.mem_append_left _ common))
    fun sign => notSign (mem_coreSigns_of_mem_signs sign)

end Phrase

/-! ## Literals -/

theorem Item.dropQuoted_append (item : Item scope) (right : Text) :
    dropQuoted '"' (item.text ++ right) = item.code ++ dropQuoted '"' right := by
  cases item with
  | value expr =>
    have free : '"' ∉ expr.text := (expr.plain []).not_mem (by decide) (by decide) (by decide)
    exact PseudoLint.dropQuoted_append free right
  | quotation quoted =>
    have closed := dropQuoted_literal quoted.noQuote right
    simpa [Item.text, Item.code] using closed

theorem dropQuoted_listed (others : List (Item scope)) :
    dropQuoted '"' (others.flatMap Item.listed) = others.flatMap Item.listedCode := by
  induction others with
  | nil => rfl
  | cons item rest ih =>
    have comma : '"' ∉ [',', ' '] := by decide
    rw [List.flatMap_cons, List.flatMap_cons, Item.listed, Item.listedCode]
    have apart := PseudoLint.dropQuoted_append comma (item.text ++ rest.flatMap Item.listed)
    rw [item.dropQuoted_append, ih] at apart
    exact apart

theorem Item.count_quote (item : Item scope) : item.text.count '"' % 2 = 0 := by
  cases item with
  | value expr =>
    have free : '"' ∉ expr.text := (expr.plain []).not_mem (by decide) (by decide) (by decide)
    rw [Item.text, List.count_eq_zero_of_not_mem free]
  | quotation quoted =>
    simp [Item.text, List.count_append, List.count_eq_zero_of_not_mem quoted.noQuote]

theorem count_quote_listed (others : List (Item scope)) :
    (others.flatMap Item.listed).count '"' % 2 = 0 := by
  induction others with
  | nil => rfl
  | cons item rest ih =>
    have here := item.count_quote
    have listed : item.listed.count '"' = item.text.count '"' := by simp [Item.listed]
    rw [List.flatMap_cons, List.count_append, listed]
    omega

theorem Item.mem_text {item : Item scope} {c : Char} (member : c ∈ item.text) :
    c ∈ item.code ∨ c = '"' ∨ ∃ quoted : Quotation, c ∈ quoted.inside := by
  cases item with
  | value expr => exact .inl member
  | quotation quoted =>
    rcases List.mem_cons.mp member with rfl | later
    · exact .inr (.inl rfl)
    · rcases List.mem_append.mp later with inside | last
      · exact .inr (.inr ⟨quoted, inside⟩)
      · exact .inr (.inl (List.mem_singleton.mp last))

theorem Item.mem_listed {item : Item scope} {c : Char} (member : c ∈ item.listed) :
    c ∈ item.listedCode ∨ c = '"' ∨ ∃ quoted : Quotation, c ∈ quoted.inside := by
  simp only [Item.listed, Item.listedCode, List.mem_cons] at member ⊢
  rcases member with comma | space | inside
  · exact .inl (.inl comma)
  · exact .inl (.inr (.inl space))
  · exact (Item.mem_text inside).imp_left fun found => .inr (.inr found)

namespace Phrase

/-- Only output has literals. -/
theorem text_eq_code {phrase : Phrase scope} (plain : phrase.keyword? ≠ some .output) :
    phrase.text = phrase.code := by
  cases phrase with
  | output first others => exact absurd rfl plain
  | _ => rfl

/-- The beginning of a line of output. -/
def outputStart : Text :=
  "OUTPUT" ++ [' ']

theorem output_text (first : Item scope) (others : List (Item scope)) :
    (output first others).text = outputStart ++ (first.text ++ others.flatMap Item.listed) :=
  (List.append_assoc _ [' '] _).symm

theorem output_code (first : Item scope) (others : List (Item scope)) :
    (output first others).code = outputStart ++ (first.code ++ others.flatMap Item.listedCode) :=
  (List.append_assoc _ [' '] _).symm

theorem not_quote_outputStart : '"' ∉ outputStart := by
  intro member
  rcases List.mem_append.mp member with word | space
  · exact CoreWord.output.isWord.not_mem (by decide) word
  · cases List.mem_singleton.mp space

theorem not_quote_code (phrase : Phrase scope) : '"' ∉ phrase.code :=
  phrase.not_mem_code (by decide) (by decide)

theorem leavesPlain (phrase : Phrase scope) : LeavesPlain phrase.text phrase.code where
  outside := by
    by_cases listing : phrase.keyword? = some .output
    · cases phrase with
      | output first others =>
        rw [output_text, output_code, PseudoLint.dropQuoted_append not_quote_outputStart,
          first.dropQuoted_append, dropQuoted_listed]
      | _ => cases listing
    · rw [text_eq_code listing]
      exact dropQuoted_of_free phrase.not_quote_code
  quotes := phrase.not_quote_code
  apostrophes := phrase.not_mem_code (by decide) (by decide)
  slashes := phrase.not_mem_code (by decide) (by decide)

theorem count_quote (phrase : Phrase scope) : phrase.text.count '"' % 2 = 0 := by
  by_cases listing : phrase.keyword? = some .output
  · cases phrase with
    | output first others =>
      have start := List.count_eq_zero_of_not_mem not_quote_outputStart
      have items := first.count_quote
      have listed := count_quote_listed others
      rw [output_text, List.count_append, List.count_append, start]
      omega
    | _ => cases listing
  · rw [text_eq_code listing, List.count_eq_zero_of_not_mem phrase.not_quote_code]

/-- What stands on a line is in its code, or it is a quote or belongs to a literal. -/
theorem mem_text {phrase : Phrase scope} {c : Char} (member : c ∈ phrase.text) :
    c ∈ phrase.code ∨ c = '"' ∨ ∃ quoted : Quotation, c ∈ quoted.inside := by
  by_cases listing : phrase.keyword? = some .output
  · cases phrase with
    | output first others =>
      rw [output_text] at member
      rw [output_code]
      simp only [List.mem_append, List.mem_flatMap] at member ⊢
      rcases member with start | here | ⟨item, listed, there⟩
      · exact .inl (.inl start)
      · exact (Item.mem_text here).imp_left fun found => .inr (.inl found)
      · exact (Item.mem_listed there).imp_left fun found => .inr (.inr ⟨item, listed, found⟩)
    | _ => cases listing
  · rw [text_eq_code listing] at member
    exact .inl member

theorem not_newline_text (phrase : Phrase scope) : '\n' ∉ phrase.text := by
  intro member
  rcases mem_text member with code | quote | ⟨quoted, inside⟩
  · exact phrase.not_mem_code (by decide) (by decide) code
  · cases quote
  · exact quoted.noNewline inside

/-- Only assignments and headers of counted loops have the assignment sign. -/
theorem arrow_cases {phrase : Phrase scope} (member : assignArrow ∈ phrase.text) :
    (∃ target value, phrase = .assign target value) ∨
      ∃ counter first last, phrase = .forRange counter first last := by
  have sign : assignArrow ∈ phrase.signs := by
    rcases mem_text member with code | quote | ⟨quoted, inside⟩
    · rcases phrase.plain_code.chars _ code with inWord | common | sign
      · rw [not_isWordChar_arrow] at inWord
        cases inWord
      · exact absurd common (by decide)
      · exact sign
    · cases quote
    · exact absurd inside quoted.noArrow
  have compares (relation : Relation) : assignArrow ∉ relation.text := by
    cases relation <;> decide
  cases phrase with
  | assign target value => exact .inl ⟨target, value, rfl⟩
  | forRange counter first last => exact .inr ⟨counter, first, last, rfl⟩
  | ifThen test => exact absurd sign (compares test.relation)
  | whileTest test => exact absurd sign (compares test.relation)
  | untilTest test => exact absurd sign (compares test.relation)
  | _ => cases sign

end Phrase

end PseudoLint.Core
