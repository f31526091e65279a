import PseudoLint.Proofs.Finding.Topic
import PseudoLint.Proofs.SymbolTable.Renumbering
import PseudoLint.Proofs.Text.Pieces

/-! # Moving the lines that findings mention

Some findings mention the line of an earlier declaration. If all lines move by a map that keeps
different lines apart, the messages change where they quote such a line and nowhere else, and two
messages are equal after the move exactly if they were equal before. The latter needs that the
message on a repeated declaration tells the name, the type and the line, although the type is an
arbitrary text.
-/

namespace PseudoLint

namespace Numeral

theorem isDigit_of_mem_ofNat {n : Nat} {c : Char} (member : c ∈ ofNat n) : c.isDigit = true :=
  Nat.isDigit_of_mem_toDigits (by decide) (by decide) member

theorem ofNat_injective {m n : Nat} (same : ofNat m = ofNat n) : m = n := by
  have values := congrArg (Nat.ofDigitChars 10 · 0) same
  simpa only [ofNat, Nat.ofDigitChars_ten_toDigits] using values

/-- The decimal text of an integer tells the integer. -/
theorem ofInt_injective {a b : Int} (same : ofInt a = ofInt b) : a = b := by
  have unsigned : ∀ m n : Nat, ofNat m ≠ '-' :: ofNat n := by
    intro m n equal
    have digit : '-'.isDigit = true :=
      isDigit_of_mem_ofNat (n := m) (equal ▸ List.mem_cons_self)
    revert digit
    decide
  cases a with
  | ofNat m =>
    cases b with
    | ofNat n => exact congrArg Int.ofNat (ofNat_injective same)
    | negSucc n => exact (unsigned m (n + 1) same).elim
  | negSucc m =>
    cases b with
    | ofNat n => exact (unsigned n (m + 1) same.symm).elim
    | negSucc n =>
      have next := ofNat_injective (List.cons.inj same).2
      exact congrArg Int.negSucc (Nat.succ.inj next)

theorem not_mem_ofInt {c : Char} (notDigit : c.isDigit = false) (notSign : c ≠ '-') (a : Int) :
    c ∉ ofInt a := by
  have digits : ∀ n : Nat, c ∉ ofNat n := by
    intro n member
    have digit := isDigit_of_mem_ofNat member
    rw [notDigit] at digit
    cases digit
  cases a with
  | ofNat n => exact digits n
  | negSucc n =>
    intro member
    rcases List.mem_cons.mp member with sign | digit
    · exact notSign sign
    · exact digits (n + 1) digit

theorem space_not_mem_ofInt (a : Int) : ' ' ∉ ofInt a :=
  not_mem_ofInt (by decide) (by decide) a

end Numeral

namespace Finding

/-- A finding with the lines that it mentions moved. -/
def renumber (move : Int → Int) : Finding → Finding
  | .redeclaredWithType name type line => .redeclaredWithType name type (move line)
  | .redeclared name line => .redeclared name (move line)
  | .indexOutOfBounds index name array => .indexOutOfBounds index name (array.renumber move)
  | finding => finding

/-- Whether the message of a finding quotes a line. -/
def quotesLine : Finding → Bool
  | .redeclaredWithType _ _ _ | .redeclared _ _ => true
  | _ => false

/-- Only findings on declarations and on bounds mention lines. -/
theorem renumber_of_topic (move : Int → Int) {finding : Finding}
    (declaration : finding.topic ≠ .declaration) (bounds : finding.topic ≠ .bounds) :
    finding.renumber move = finding := by
  cases finding with
  | redeclaredWithType | redeclared => exact (declaration rfl).elim
  | indexOutOfBounds => exact (bounds rfl).elim
  | _ => rfl

theorem code_renumber (move : Int → Int) (finding : Finding) :
    (finding.renumber move).code = finding.code := by
  cases finding <;> rfl

theorem wellQuoted_renumber (move : Int → Int) {finding : Finding} (quoted : finding.WellQuoted) :
    (finding.renumber move).WellQuoted := by
  cases finding <;> exact quoted

theorem quotesLine_renumber (move : Int → Int) (finding : Finding) :
    (finding.renumber move).quotesLine = finding.quotesLine := by
  cases finding <;> rfl

theorem exists_redeclared {finding : Finding} (code : finding.code = "W031") :
    ∃ name line, finding = redeclared name line := by
  unfold Finding.code at code
  cases finding with
  | redeclared name line => exact ⟨name, line, rfl⟩
  | _ => simp at code

theorem exists_redeclaredWithType {finding : Finding} (code : finding.code = "E031") :
    ∃ name type line, finding = redeclaredWithType name type line := by
  unfold Finding.code at code
  cases finding with
  | redeclaredWithType name type line => exact ⟨name, type, line, rfl⟩
  | _ => simp at code

/-- The code of a finding tells whether its message quotes a line. -/
theorem quotesLine_iff {finding : Finding} :
    finding.quotesLine = true ↔ finding.code = "W031" ∨ finding.code = "E031" := by
  constructor
  · intro quotes
    cases finding with
    | redeclared => exact .inl rfl
    | redeclaredWithType => exact .inr rfl
    | _ => cases quotes
  · rintro (code | code)
    · obtain ⟨name, line, rfl⟩ := exists_redeclared code
      rfl
    · obtain ⟨name, type, line, rfl⟩ := exists_redeclaredWithType code
      rfl

theorem topic_of_quotesLine {finding : Finding} (quotes : finding.quotesLine = true) :
    finding.topic = .declaration := by
  cases finding with
  | redeclared | redeclaredWithType => rfl
  | _ => cases quotes

theorem quotesLine_eq_of_message_eq {first second : Finding} (firstQuoted : first.WellQuoted)
    (secondQuoted : second.WellQuoted) (same : first.message = second.message) :
    first.quotesLine = second.quotesLine := by
  rw [Bool.eq_iff_iff, quotesLine_iff, quotesLine_iff,
    (kind_eq_of_message_eq firstQuoted secondQuoted same).2]

/-- A message that quotes no line stays as it is. -/
theorem message_renumber (move : Int → Int) {finding : Finding}
    (quotesNone : finding.quotesLine = false) :
    (finding.renumber move).message = finding.message := by
  cases finding with
  | redeclaredWithType | redeclared => cases quotesNone
  | _ => rfl

theorem message_redeclared (name : Text) (line : Int) :
    (redeclared name line).message =
      "Variable '" ++ (name ++ '\'' :: (" already declared on line" ++
        ' ' :: Numeral.ofInt line)) := by
  unfold message
  dsimp only
  repeat rw [String.toList_ofList]
  simp only [List.append_assoc, List.cons_append, List.nil_append]

theorem message_redeclaredWithType (name type : Text) (line : Int) :
    (redeclaredWithType name type line).message =
      "Variable '" ++ (name ++ '\'' ::
        (" redeclared with different type. Previously declared as " ++
          (type ++ (" on line" ++ ' ' :: Numeral.ofInt line)))) := by
  unfold message
  dsimp only
  repeat rw [String.toList_ofList]
  simp only [List.append_assoc, List.cons_append, List.nil_append]

/-- A message that quotes a line tells everything about its finding. -/
theorem eq_of_message_eq {first second : Finding} (firstQuoted : first.WellQuoted)
    (secondQuoted : second.WellQuoted) (quotes : first.quotesLine = true)
    (same : first.message = second.message) : first = second := by
  have codes := (kind_eq_of_message_eq firstQuoted secondQuoted same).2
  rcases quotesLine_iff.mp quotes with code | code
  · obtain ⟨name, line, rfl⟩ := exists_redeclared code
    obtain ⟨other, next, rfl⟩ := exists_redeclared (codes ▸ code)
    rw [message_redeclared, message_redeclared] at same
    obtain ⟨names, rest⟩ :=
      Text.append_cons_inj firstQuoted secondQuoted (List.append_cancel_left same)
    have lines := (List.cons.inj (List.append_cancel_left rest)).2
    rw [names, Numeral.ofInt_injective lines]
  · obtain ⟨name, type, line, rfl⟩ := exists_redeclaredWithType code
    obtain ⟨other, kind, next, rfl⟩ := exists_redeclaredWithType (codes ▸ code)
    rw [message_redeclaredWithType, message_redeclaredWithType] at same
    obtain ⟨names, rest⟩ :=
      Text.append_cons_inj firstQuoted secondQuoted (List.append_cancel_left same)
    -- The type is any text, but the line is what follows the last space.
    have ending := List.append_cancel_left rest
    rw [← List.append_assoc, ← List.append_assoc] at ending
    obtain ⟨before, lines⟩ := Text.append_cons_inj_last (Numeral.space_not_mem_ofInt line)
      (Numeral.space_not_mem_ofInt next) ending
    rw [names, List.append_cancel_right before, Numeral.ofInt_injective lines]

theorem renumber_injective {move : Int → Int} (apart : ∀ a b, move a = move b → a = b)
    {first second : Finding} (quotes : first.quotesLine = true)
    (same : first.renumber move = second.renumber move) : first = second := by
  have codes := congrArg Finding.code same
  rw [code_renumber, code_renumber] at codes
  rcases quotesLine_iff.mp quotes with code | code
  · obtain ⟨name, line, rfl⟩ := exists_redeclared code
    obtain ⟨other, next, rfl⟩ := exists_redeclared (codes ▸ code)
    simp only [renumber, redeclared.injEq] at same
    rw [same.1, apart _ _ same.2]
  · obtain ⟨name, type, line, rfl⟩ := exists_redeclaredWithType code
    obtain ⟨other, kind, next, rfl⟩ := exists_redeclaredWithType (codes ▸ code)
    simp only [renumber, redeclaredWithType.injEq] at same
    rw [same.1, same.2.1, apart _ _ same.2.2]

/-- Moving lines makes no two messages equal and no two messages different. -/
theorem message_renumber_eq_iff {move : Int → Int} (apart : ∀ a b, move a = move b → a = b)
    {first second : Finding} (firstQuoted : first.WellQuoted) (secondQuoted : second.WellQuoted) :
    first.message = second.message ↔
      (first.renumber move).message = (second.renumber move).message := by
  have movedFirst := wellQuoted_renumber move firstQuoted
  have movedSecond := wellQuoted_renumber move secondQuoted
  constructor
  · intro same
    have agree := quotesLine_eq_of_message_eq firstQuoted secondQuoted same
    cases quotes : first.quotesLine with
    | true => rw [eq_of_message_eq firstQuoted secondQuoted quotes same]
    | false => rw [message_renumber move quotes, message_renumber move (agree ▸ quotes), same]
  · intro same
    have agree := quotesLine_eq_of_message_eq movedFirst movedSecond same
    rw [quotesLine_renumber, quotesLine_renumber] at agree
    cases quotes : first.quotesLine with
    | true =>
      have moved := eq_of_message_eq movedFirst movedSecond
        ((quotesLine_renumber move first).trans quotes) same
      rw [renumber_injective apart quotes moved]
    | false =>
      rwa [message_renumber move quotes, message_renumber move (agree ▸ quotes)] at same

end Finding

end PseudoLint
