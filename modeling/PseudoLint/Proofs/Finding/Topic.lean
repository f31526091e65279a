import PseudoLint.Proofs.Finding.Wording

/-! # What a finding is about

The topic of a finding follows from its cause. It is finer than the code where several rules share
one, and it is what tells the rules apart: no two groups of rules speak about the same topic.
-/

namespace PseudoLint.Finding

/-- What a finding is about. -/
inductive Topic where
  | content
  | layout
  | wording
  | unknownWord
  | nesting
  | keyword
  | declaration
  | constant
  | subprogram
  | shape
  | literal
  | bounds
  | undeclared
  | call
  | file
  | sweep
deriving DecidableEq, Repr

/-- Whether something on a topic can be found after all lines have been passed. -/
def Topic.isFinal : Topic → Bool
  | .content | .nesting | .sweep => true
  | _ => false

/-- The topic of a finding. -/
def topic : Finding → Topic
  | .noContent => .content
  | .indentation _ => .layout
  | .equalsAssignment | .nameStartsWithDigit _ | .nameHasInvalidCharacters _
  | .unrecognizedLine => .wording
  | .unknownKeyword _ => .unknownWord
  | .unexpectedCloser _ | .mismatchedCloser _ _ | .unmatchedOpener _ _ => .nesting
  | .keywordCase _ | .foreignKeyword _ => .keyword
  | .reservedName _ | .redeclaredWithType _ _ _ | .redeclared _ _ | .declarationWithoutColon
  | .arrayWithoutBrackets | .arrayWithoutOf | .charDeclaredWithString => .declaration
  | .constantWithoutEquals | .constantWithArrow => .constant
  | .functionWithoutReturns => .subprogram
  | .forShape | .caseShape | .whileParentheses => .shape
  | .unclosedString | .emptyCharLiteral | .longCharLiteral | .charAssignedString _ => .literal
  | .indexOutOfBounds _ _ _ => .bounds
  | .undeclared _ => .undeclared
  | .functionCalled _ => .call
  | .invalidFileMode _ _ | .openFileShape _ => .file
  | .extraCloser _ | .forEndedByEndfor | .lengthOfOther _ | .emptyForBody => .sweep

/-- A finding on a topic whose message can be told from others. -/
def About (topic : Topic) (finding : Finding) : Prop :=
  finding.WellQuoted ∧ finding.topic = topic

/-- A finding whose message can be told from others and that is not about nesting. -/
def Ordinary (finding : Finding) : Prop :=
  finding.WellQuoted ∧ finding.isNesting = false

theorem isNesting_iff {finding : Finding} :
    finding.isNesting = true ↔ finding.topic = .nesting := by
  cases finding <;> simp [isNesting, topic]

theorem About.ordinary {topic : Topic} {finding : Finding} (about : finding.About topic)
    (other : topic ≠ .nesting) : finding.Ordinary := by
  refine ⟨about.1, Bool.eq_false_iff.mpr fun nesting => other ?_⟩
  rw [← about.2]
  exact isNesting_iff.mp nesting

/-- Only the rules on the use of names say that a name is undeclared, and its code says so. -/
theorem code_eq_undeclared_iff {finding : Finding} :
    finding.code = "E041" ↔ finding.topic = .undeclared := by
  unfold code topic
  cases finding <;> simp

theorem code_eq_file_iff {finding : Finding} : finding.code = "E043" ↔ finding.topic = .file := by
  unfold code topic
  cases finding <;> simp

theorem code_eq_noContent_iff {finding : Finding} :
    finding.code = "E000" ↔ finding.topic = .content := by
  unfold code topic
  cases finding <;> simp

end PseudoLint.Finding
