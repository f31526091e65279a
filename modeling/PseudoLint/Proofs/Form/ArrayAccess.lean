import PseudoLint.Proofs.Form.ArrayDeclaration

/-! # Reading array accesses

An access is read where a bracket follows a name, so a text with a single opening bracket has at
most one access, and its index is what follows the bracket.
-/

namespace PseudoLint.Form

variable {α : Type}

/-! ## Values of a form -/

/-- What a form reads at the start of a text is among its values. -/
theorem mem_all_of_fits {form : Form α} {text rest : Text} {value : α} (nonempty : text ≠ [])
    (fits : form text = Option.some (value, rest)) : value ∈ form.all text := by
  obtain ⟨c, others, rfl⟩ := List.exists_cons_of_ne_nil nonempty
  simp only [all, allFrom, fits]
  exact List.mem_cons_self

private theorem exists_suffix_of_mem_allFrom {form : Form α} {skip : Nat} {text : Text} {value : α}
    (member : value ∈ form.allFrom skip text) :
    ∃ place rest, place <:+ text ∧ form place = some (value, rest) := by
  induction text generalizing skip with
  | nil =>
    cases skip <;> cases member
  | cons c tail ih =>
    have later {skip : Nat} (found : value ∈ form.allFrom skip tail) :
        ∃ place rest, place <:+ c :: tail ∧ form place = some (value, rest) := by
      obtain ⟨place, rest, suffix, fits⟩ := ih found
      exact ⟨place, rest, suffix.trans (List.suffix_cons c tail), fits⟩
    cases skip with
    | succ skip => exact later member
    | zero =>
      simp only [allFrom] at member
      split at member
      · rename_i here after fits
        rcases List.mem_cons.mp member with rfl | found
        · exact ⟨_, after, List.suffix_refl _, fits⟩
        · exact later found
      · exact later member

/-- Every value of a form is read at some place of the text. -/
theorem exists_suffix_of_mem_all {form : Form α} {text : Text} {value : α}
    (member : value ∈ form.all text) :
    ∃ place rest, place <:+ text ∧ form place = some (value, rest) :=
  exists_suffix_of_mem_allFrom member

/-! ## Accesses -/

theorem eq_cons_of_mark {c : Char} {text rest : Text} (read : mark c text = some rest) :
    text = c :: rest := by
  cases text with
  | nil => cases read
  | cons d tail =>
    simp only [mark] at read
    split at read
    · rename_i same
      rw [beq_iff_eq.mp same, Option.some.inj read]
    · cases read

/-- Of a text with a single opening bracket only the index behind the bracket is read. -/
theorem index_of_mem_all {left right : Text} {access : Text × Numeral.Literal}
    (before : '[' ∉ left) (behind : '[' ∉ right)
    (member : access ∈ arrayAccess.all (left ++ '[' :: right)) :
    ∃ rest closed, integer right.trimStart = some (access.2, rest) ∧
      mark ']' rest.trimStart = some closed := by
  obtain ⟨place, rest, suffix, fits⟩ := exists_suffix_of_mem_all member
  simp only [arrayAccess, bind, Option.bind_eq_some_iff] at fits
  obtain ⟨⟨name, afterName⟩, named, opened, opens, ⟨index, afterIndex⟩, read, closed, closes,
    same⟩ := fits
  cases same
  have reads : afterName = '[' :: opened := eq_cons_of_mark opens
  obtain ⟨front, split⟩ := (name_suffix named).trans suffix
  rw [reads] at split
  obtain ⟨-, rfl⟩ := Text.append_cons_inj_single before behind split.symm
  exact ⟨afterIndex, rest, read, closes⟩

/-- If the only opening bracket of a text is followed by a literal, the index of every access is
this literal, and it is closed at once. -/
theorem literal_of_mem_all {left right : Text} {index : Numeral.Literal} {c : Char}
    {access : Text × Numeral.Literal} (before : '[' ∉ left) (proper : index.Proper)
    (solid : isBlank c = false) (ends : isDecimal c = false) (behind : '[' ∉ c :: right)
    (member : access ∈ arrayAccess.all (left ++ '[' :: (index.written ++ c :: right))) :
    access.2 = index ∧ c = ']' := by
  have free : '[' ∉ index.written ++ c :: right := by
    rw [List.mem_append, not_or]
    exact ⟨proper.not_mem_written (by decide) (by decide), behind⟩
  have literal : integer (index.written ++ c :: right) = some (index, c :: right) := by
    apply integer_append_written proper
    exact List.takeWhile_cons_of_neg (by rw [ends]; exact Bool.false_ne_true)
  obtain ⟨rest, closed, read, closes⟩ := index_of_mem_all before free member
  rw [proper.isSolid.trimStart_append, literal] at read
  obtain ⟨same, rfl⟩ := Prod.mk.inj (Option.some.inj read)
  rw [Text.trimStart_of_solid rfl solid] at closes
  exact ⟨same.symm, (List.cons.inj (eq_cons_of_mark closes)).1⟩

/-- A name with a literal in brackets behind it is read as an access. -/
theorem arrayAccess_append {word : Text} {index : Numeral.Literal} (named : isName word = true)
    (proper : index.Proper) (rest : Text) :
    arrayAccess (word ++ '[' :: (index.written ++ ']' :: rest)) = some ((word, index), rest) := by
  have nameRead : name (word ++ '[' :: (index.written ++ ']' :: rest)) =
      some (word, '[' :: (index.written ++ ']' :: rest)) :=
    name_append_of_isName named (List.takeWhile_cons_of_neg (by decide))
  have indexRead : integer (index.written ++ ']' :: rest) = some (index, ']' :: rest) :=
    integer_append_written proper (List.takeWhile_cons_of_neg (by decide))
  rw [← proper.isSolid.trimStart_append] at indexRead
  simp only [arrayAccess, bind, Option.bind_eq_some_iff]
  exact ⟨_, nameRead, _, mark_self '[' _, _, indexRead, _, mark_self ']' rest, rfl⟩

end PseudoLint.Form
