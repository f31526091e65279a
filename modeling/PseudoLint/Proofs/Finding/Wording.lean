import PseudoLint.Finding
import PseudoLint.Proofs.Text.Pieces

/-! # What a message tells

Messages quote names, types, modes and numbers of the source, so it is not obvious that a message
determines what was found. It does up to severity and code: most messages are told apart by how
they begin, and the ones that begin alike by what follows the quoted name. The latter needs names
without single quotes, which is what `WellQuoted` asks of a finding.
-/

namespace PseudoLint

/-- In a table of texts none of which begins another, a text begins with at most one of them. -/
theorem eq_of_startsWith {α : Type} {table : List (Text × α)} {text : Text}
    {first second : Text × α}
    (apart : ∀ a ∈ table, ∀ b ∈ table, b.1.startsWith a.1 = true → a = b)
    (firstIn : first ∈ table) (secondIn : second ∈ table)
    (firstFits : text.startsWith first.1 = true) (secondFits : text.startsWith second.1 = true) :
    first = second := by
  have left := List.isPrefixOf_iff_prefix.mp firstFits
  have right := List.isPrefixOf_iff_prefix.mp secondFits
  rcases List.prefix_or_prefix_of_prefix left right with within | within
  · exact apart first firstIn second secondIn (List.isPrefixOf_iff_prefix.mpr within)
  · exact (apart second secondIn first firstIn (List.isPrefixOf_iff_prefix.mpr within)).symm

namespace Finding

/-- Whether a finding is about the nesting of blocks. -/
def isNesting : Finding → Bool
  | .unexpectedCloser _ | .mismatchedCloser _ _ | .unmatchedOpener _ _ => true
  | _ => false

/-- Where a message begins like others and quotes a name, the name contains no single quote. -/
def WellQuoted : Finding → Prop
  | .foreignKeyword name | .reservedName name | .redeclaredWithType name _ _ | .redeclared name _
  | .undeclared name => '\'' ∉ name
  | _ => True

/-- The beginnings of messages, with the severity and the code that they tell. Two of them tell
nothing: how the message goes on after the name decides. -/
def openings : List (Text × Option (Severity × Text)) :=
  [("No ", some (.error, "E000")), ("Indentation", some (.warning, "W001")),
    ("Use ", some (.error, "E010")), ("Identifier", some (.error, "E011")),
    ("This", some (.error, "E012")), ("Unknown", some (.error, "E013")),
    ("Keyword", some (.error, "E014")), ("Unexpected ", some (.error, "E020")),
    ("Expected ", some (.error, "E020")), ("Unmatched ", some (.error, "E020")),
    ("Extra", some (.error, "E020")), ("FOR loops", some (.error, "E020")),
    ("DECLARE", some (.error, "E032")), ("ARRAY", some (.error, "E032")),
    ("CONSTANT", some (.error, "E032")), ("FUNCTION", some (.error, "E032")),
    ("FOR loop ", some (.error, "E033")), ("CASE", some (.error, "E033")),
    ("WHILE", some (.error, "E033")), ("Array", some (.error, "E040")),
    ("CALL", some (.error, "E042")), ("Invalid", some (.error, "E043")),
    ("OPENFILE", some (.error, "E043")), ("CHAR", some (.error, "E044")),
    ("Empty CHAR", some (.error, "E044")), ("Unclosed", some (.error, "E045")),
    ("LENGTH", some (.error, "E046")), ("Empty FOR", some (.warning, "W050")),
    ("Variable '", none), ("'", none)]

/-- How messages go on after a quoted name, with the severity and the code that this tells. -/
def continuations : List (Text × Severity × Text) :=
  [("' is not", .error, "E015"), ("' is a ", .error, "E030"), ("' redeclared", .error, "E031"),
    ("' already", .warning, "W031"), ("' must", .error, "E041")]

-- Literals are turned into lists of characters first: evaluating them decodes them each time.
private theorem openings_apart :
    ∀ a ∈ openings, ∀ b ∈ openings, b.1.startsWith a.1 = true → a = b := by
  unfold openings
  repeat rw [String.toList_ofList]
  decide

private theorem continuations_apart :
    ∀ a ∈ continuations, ∀ b ∈ continuations, b.1.startsWith a.1 = true → a = b := by
  unfold continuations
  repeat rw [String.toList_ofList]
  decide

/-- The beginning of the message of a finding. -/
def opening : Finding → Text
  | .noContent => "No "
  | .indentation _ => "Indentation"
  | .equalsAssignment => "Use "
  | .nameStartsWithDigit _ | .nameHasInvalidCharacters _ => "Identifier"
  | .unrecognizedLine => "This"
  | .unknownKeyword _ => "Unknown"
  | .keywordCase _ => "Keyword"
  | .foreignKeyword _ | .reservedName _ => "'"
  | .unexpectedCloser _ => "Unexpected "
  | .mismatchedCloser _ _ => "Expected "
  | .unmatchedOpener _ _ => "Unmatched "
  | .extraCloser _ => "Extra"
  | .forEndedByEndfor => "FOR loops"
  | .redeclaredWithType _ _ _ | .redeclared _ _ | .undeclared _ => "Variable '"
  | .declarationWithoutColon => "DECLARE"
  | .arrayWithoutBrackets | .arrayWithoutOf => "ARRAY"
  | .constantWithoutEquals | .constantWithArrow => "CONSTANT"
  | .functionWithoutReturns => "FUNCTION"
  | .forShape => "FOR loop "
  | .caseShape => "CASE"
  | .whileParentheses => "WHILE"
  | .indexOutOfBounds _ _ _ => "Array"
  | .functionCalled _ => "CALL"
  | .invalidFileMode _ _ => "Invalid"
  | .openFileShape _ => "OPENFILE"
  | .charDeclaredWithString | .longCharLiteral | .charAssignedString _ => "CHAR"
  | .emptyCharLiteral => "Empty CHAR"
  | .unclosedString => "Unclosed"
  | .lengthOfOther _ => "LENGTH"
  | .emptyForBody => "Empty FOR"

/-- Severity and code of a finding whose message tells them by its beginning. -/
def openingKind (finding : Finding) : Option (Severity × Text) :=
  match finding with
  | .foreignKeyword _ | .reservedName _ | .redeclaredWithType _ _ _ | .redeclared _ _
  | .undeclared _ => none
  | _ => some (finding.severity, finding.code)

theorem openingKind_eq (finding : Finding) :
    finding.openingKind = none ∨ finding.openingKind = some (finding.severity, finding.code) := by
  cases finding with
  | foreignKeyword | reservedName | redeclaredWithType | redeclared | undeclared => exact .inl rfl
  | _ => exact .inr rfl

theorem message_startsWith_opening (finding : Finding) :
    finding.message.startsWith finding.opening = true := by
  unfold message opening
  cases finding <;> dsimp only <;> (repeat rw [String.toList_ofList]) <;> rfl

theorem opening_mem (finding : Finding) : (finding.opening, finding.openingKind) ∈ openings := by
  unfold opening openingKind severity code openings
  cases finding <;> simp only [List.mem_cons, true_or, or_true]

/-- A message begins with no other entry of the table than its own. -/
theorem opening_eq_of_startsWith {finding : Finding} {entry : Text × Option (Severity × Text)}
    (member : entry ∈ openings) (begins : finding.message.startsWith entry.1 = true) :
    (finding.opening, finding.openingKind) = entry :=
  eq_of_startsWith openings_apart (opening_mem finding) member
    (message_startsWith_opening finding) begins

/-- A message begins with an entry of the table exactly if that is its own. -/
theorem startsWith_message_eq {finding : Finding} {entry : Text × Option (Severity × Text)}
    (member : entry ∈ openings) :
    finding.message.startsWith entry.1 = (finding.opening == entry.1) := by
  rw [Bool.eq_iff_iff, beq_iff_eq]
  constructor
  · intro begins
    exact congrArg Prod.fst (opening_eq_of_startsWith member begins)
  · intro same
    rw [← same]
    exact message_startsWith_opening finding

/-- Messages that are equal begin with the same entry. -/
theorem opening_eq_of_message_eq {first second : Finding} (same : first.message = second.message) :
    (first.opening, first.openingKind) = (second.opening, second.openingKind) := by
  have begins := message_startsWith_opening second
  rw [← same] at begins
  exact opening_eq_of_startsWith (opening_mem second) begins

/-- A message from the second single quote on. -/
def afterName (message : Text) : Text :=
  ((message.dropWhile (· != '\'')).drop 1).dropWhile (· != '\'')

/-- How the message of a finding goes on after the name, if its beginning does not tell the kind. -/
def continuation : Finding → Text
  | .foreignKeyword _ => "' is not"
  | .reservedName _ => "' is a "
  | .redeclaredWithType _ _ _ => "' redeclared"
  | .redeclared _ _ => "' already"
  | .undeclared _ => "' must"
  | _ => []

theorem dropWhile_quote {name : Text} (free : '\'' ∉ name) (rest : Text) :
    (name ++ '\'' :: rest).dropWhile (· != '\'') = '\'' :: rest := by
  rw [Text.dropWhile_append_of_free free]
  rfl

/-- A message is the text before its first single quote, a name in quotes, and a rest. -/
theorem afterName_quoting (start : Text) {name : Text} (plain : '\'' ∉ start)
    (free : '\'' ∉ name) (rest : Text) :
    afterName (start ++ '\'' :: (name ++ '\'' :: rest)) = '\'' :: rest := by
  rw [afterName, dropWhile_quote plain, List.drop_one, List.tail_cons, dropWhile_quote free]

theorem afterName_startsWith_continuation {finding : Finding} (quoted : finding.WellQuoted)
    (untold : finding.openingKind = none) :
    (afterName finding.message).startsWith finding.continuation = true := by
  unfold message continuation
  cases finding with
  | foreignKeyword name | reservedName name =>
    have after := afterName_quoting [] List.not_mem_nil quoted
    dsimp only
    repeat rw [String.toList_ofList]
    simp only [List.cons_append, List.nil_append] at after ⊢
    rw [after]
    rfl
  | redeclaredWithType name _ _ | redeclared name _ | undeclared name =>
    have after :=
      afterName_quoting ['V', 'a', 'r', 'i', 'a', 'b', 'l', 'e', ' '] (by decide) quoted
    dsimp only
    repeat rw [String.toList_ofList]
    simp only [List.append_assoc, List.cons_append, List.nil_append] at after ⊢
    rw [after]
    rfl
  | _ => cases untold

theorem continuation_mem {finding : Finding} (untold : finding.openingKind = none) :
    (finding.continuation, finding.severity, finding.code) ∈ continuations := by
  unfold continuation severity code continuations
  cases finding with
  | foreignKeyword | reservedName | redeclaredWithType | redeclared | undeclared =>
    simp only [List.mem_cons, true_or, or_true]
  | _ => cases untold

/-- Findings with the same message have the same severity and the same code. -/
theorem kind_eq_of_message_eq {first second : Finding} (firstQuoted : first.WellQuoted)
    (secondQuoted : second.WellQuoted) (same : first.message = second.message) :
    first.severity = second.severity ∧ first.code = second.code := by
  have kinds : first.openingKind = second.openingKind :=
    congrArg Prod.snd (opening_eq_of_message_eq same)
  rcases openingKind_eq first with untold | told
  · have goesOn := afterName_startsWith_continuation secondQuoted (kinds ▸ untold)
    rw [← same] at goesOn
    have continuation := eq_of_startsWith continuations_apart (continuation_mem untold)
      (continuation_mem (kinds ▸ untold))
      (afterName_startsWith_continuation firstQuoted untold) goesOn
    exact Prod.ext_iff.mp (congrArg Prod.snd continuation)
  · rcases openingKind_eq second with untold | toldToo
    · rw [untold, told] at kinds
      cases kinds
    · rw [told, toldToo] at kinds
      exact Prod.ext_iff.mp (Option.some.inj kinds)

end Finding

end PseudoLint
