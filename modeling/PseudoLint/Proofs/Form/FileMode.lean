import Mathlib.Data.Bool.AllAny
import PseudoLint.Proofs.Form.ArrayDeclaration

/-! # Reading the mode of an opening

The form for openings takes the file to be the first stretch without blanks, quoted or not. So the
mode of a quoted file is read as it is written if the name has no blanks. Otherwise the name is cut
at its first blank: the mode is sought in the rest of the name, and then in an opening that begins
within the name.
-/

namespace PseudoLint

/-- The opening of a quoted file: `OPENFILE "name" FOR mode`. -/
def opening (name mode : Text) : Text :=
  "OPENFILE \"" ++ (name ++ ("\" FOR " ++ mode))

/-- The mode behind the first blank of a name, if `FOR` stands there with a mode. -/
def modeInName? (name : Text) : Option Text := do
  let text ← Form.blanks (name.dropWhile (!isBlank ·))
  let text ← Form.anyCase "FOR" text
  let text ← Form.blanks text
  let (mode, _) ← Form.stretch isWordChar text
  pure mode

/-- The mode that is read off the opening of a quoted file. -/
def modeRead? (name mode : Text) : Option Text :=
  if name.all (!isBlank ·) then some mode
  else (modeInName? name).or (Form.fileMode.first? (name ++ ("\" FOR " ++ mode)))

namespace Form

/-! ## Reading up to a mark -/

section

variable {mark : Char} (text tail : Text)

theorem stretch_append_cons {inClass : Char → Bool} (outside : inClass mark = false) :
    stretch inClass (text ++ mark :: tail) =
      (stretch inClass text).map fun read => (read.1, read.2 ++ mark :: tail) := by
  have stops : (mark :: tail).takeWhile inClass = [] := by simp [outside]
  have taken := Text.takeWhile_append_of_head stops text
  have dropped := Text.takeWhile_append_eq_iff.mp taken
  simp only [stretch, taken, dropped]
  split
  · rfl
  · rfl

theorem blanks_append_cons (solid : isBlank mark = false) :
    blanks (text ++ mark :: tail) = (blanks text).map (· ++ mark :: tail) := by
  cases text with
  | nil => simp [blanks, solid]
  | cons c rest =>
    have stops : (mark :: tail).takeWhile isBlank = [] := by simp [solid]
    have dropped := Text.takeWhile_append_eq_iff.mp (Text.takeWhile_append_of_head stops rest)
    cases blank : isBlank c with
    | true => simp [blanks, blank, Text.trimStart, dropped]
    | false => simp [blanks, blank]

theorem anyCase_append_cons {word : Text}
    (other : ∀ letter ∈ word, sameLetter letter mark = false) :
    anyCase word (text ++ mark :: tail) = (anyCase word text).map (· ++ mark :: tail) := by
  induction word generalizing text with
  | nil => rfl
  | cons letter word ih =>
    obtain ⟨first, others⟩ := List.forall_mem_cons.mp other
    cases text with
    | nil => simp [anyCase, first]
    | cons c rest =>
      cases same : sameLetter letter c with
      | true => simpa [anyCase, same] using ih rest others
      | false => simp [anyCase, same]

end

/-! ## The first place -/

theorem first?_cons {α : Type} (form : Form α) (c : Char) (rest : Text) :
    form.first? (c :: rest) = ((form (c :: rest)).map (·.1)).or (form.first? rest) := by
  cases fits : form (c :: rest) with
  | none => simp [first?, fits]
  | some found => simp [first?, fits]

/-- No opening begins where there is no letter O. -/
theorem first?_fileMode_append {front : Text} (other : ∀ c ∈ front, sameLetter 'O' c = false)
    (text : Text) : fileMode.first? (front ++ text) = fileMode.first? text := by
  induction front with
  | nil => rfl
  | cons c front ih =>
    obtain ⟨first, others⟩ := List.forall_mem_cons.mp other
    have misses : fileMode (c :: (front ++ text)) = none := by
      simp [fileMode, anyCase, first]
    rw [List.cons_append, first?_cons, misses, Option.map_none, Option.none_or, ih others]

/-! ## Openings of quoted files -/

theorem opening_eq (name mode : Text) :
    opening name mode = "OPENFILE".toList ++
      ' ' :: '"' :: (name ++ '"' :: ' ' :: ("FOR".toList ++ ' ' :: mode)) :=
  rfl

/-- A quoted name without blanks is taken whole. -/
theorem fileMode_opening_of_solid {name mode : Text} (solid : ∀ c ∈ name, isBlank c = false)
    (nonempty : mode ≠ []) (word : ∀ c ∈ mode, isWordChar c = true) :
    fileMode (opening name mode) = Option.some (mode, []) := by
  have inside : ∀ c ∈ '"' :: (name ++ ['"']), (!isBlank c) = true := by
    simp only [List.forall_mem_cons, List.forall_mem_append]
    exact ⟨by decide, by simpa using solid, by decide, List.forall_mem_nil _⟩
  have stops : (' ' :: ("FOR".toList ++ ' ' :: mode)).takeWhile (!isBlank ·) = [] := rfl
  have file := stretch_append_of_inside (List.cons_ne_nil _ _) inside stops
  rw [List.cons_append, List.append_assoc] at file
  obtain ⟨c, rest, rfl⟩ := List.exists_cons_of_ne_nil nonempty
  have starts : isBlank c = false := not_isBlank_of_isWordChar (word c List.mem_cons_self)
  have ends : ([] : Text).takeWhile isWordChar = [] := rfl
  have last := stretch_append_of_inside nonempty word ends
  rw [List.append_nil] at last
  rw [opening_eq]
  simp only [fileMode, bind, Option.bind_eq_some_iff]
  exact ⟨_, anyCase_self _ _, _, blanks_space_cons (by decide) _, _, file, _,
    blanks_space_cons (by decide) _, _, anyCase_self _ _, _, blanks_space_cons starts _, last⟩

/-- A quoted name with a blank is cut there. -/
theorem fileMode_opening_of_blank {name : Text} (mode : Text) {c : Char} (member : c ∈ name)
    (blank : isBlank c = true) :
    (fileMode (opening name mode)).map (·.1) = modeInName? name := by
  obtain ⟨d, found⟩ := Option.isSome_iff_exists.mp (List.find?_isSome.mpr ⟨c, member, blank⟩)
  obtain ⟨first, front, back, rfl, solid⟩ := List.find?_eq_some_iff_append.mp found
  let closing := ' ' :: ("FOR".toList ++ ' ' :: mode)
  have stops : ∀ text : Text, (d :: text).takeWhile (!isBlank ·) = [] := by simp [first]
  have cut : (front ++ d :: back).dropWhile (!isBlank ·) = d :: back :=
    (Text.takeWhile_dropWhile_append solid (stops back)).2
  have inside : ∀ c ∈ '"' :: front, (!isBlank c) = true :=
    List.forall_mem_cons.mpr ⟨by decide, solid⟩
  have file :=
    stretch_append_of_inside (List.cons_ne_nil _ _) inside (stops (back ++ '"' :: closing))
  have quote : isBlank '"' = false := by decide
  -- What is left of the name ends at the quote, which no later part of the form reads.
  have whole : opening (front ++ d :: back) mode =
      "OPENFILE".toList ++ ' ' :: ('"' :: front ++ (d :: back ++ '"' :: closing)) := by
    rw [opening_eq, List.append_assoc]
    rfl
  have letters : ∀ letter ∈ "FOR".toList, sameLetter letter '"' = false :=
    List.all_iff_forall_prop.mp (by decide)
  have word : isWordChar '"' = false := by decide
  rw [whole, fileMode, anyCase_self, modeInName?, cut]
  simp only [bind, pure, Option.bind_some, List.cons_append, blanks_space_cons quote] at file ⊢
  rw [file, Option.bind_some, ← List.cons_append, blanks_append_cons _ _ quote]
  simp only [Option.bind_map, Function.comp_def, Option.map_bind, anyCase_append_cons _ _ letters,
    blanks_append_cons _ _ quote, stretch_append_cons _ _ word]
  simp only [Option.map_eq_bind, Function.comp_def, Option.bind_assoc, Option.bind_some]

/-- The mode that is read off an opening is the first one that fits. -/
theorem first?_fileMode_opening {name mode : Text} (nonempty : mode ≠ [])
    (word : ∀ c ∈ mode, isWordChar c = true) :
    fileMode.first? (opening name mode) = modeRead? name mode := by
  by_cases solid : name.all (!isBlank ·) = true
  · have parts : ∀ c ∈ name, isBlank c = false := by simpa using solid
    rw [modeRead?, if_pos solid]
    exact first?_of_fits (List.cons_ne_nil _ _) (fileMode_opening_of_solid parts nonempty word)
  · obtain ⟨c, member, blank⟩ : ∃ c ∈ name, isBlank c = true := by simpa using solid
    have behind : ∀ d ∈ "PENFILE \"".toList, sameLetter 'O' d = false :=
      List.all_iff_forall_prop.mp (by decide)
    rw [modeRead?, if_neg solid, ← fileMode_opening_of_blank mode member blank,
      ← first?_fileMode_append behind]
    exact first?_cons fileMode 'O' _

end Form

end PseudoLint
