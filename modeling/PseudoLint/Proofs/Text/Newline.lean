import PseudoLint.Proofs.Text.Pieces
import PseudoLint.Text.Utf8

/-! # Line ends of two characters

A text whose line feeds are preceded by carriage returns has the same lines, each but the last with
a carriage return behind it. A carriage return is a blank, so trimming removes it, and reading the
text as a file brings the line feeds back.
-/

namespace PseudoLint

namespace Text

theorem replace_newline_cons (c : Char) (rest new : Text) :
    replace (c :: rest) "\n" new =
      if c = '\n' then new ++ replace rest "\n" new else c :: replace rest "\n" new := by
  rw [String.toList_ofList]
  by_cases newline : c = '\n'
  · simp [replace, replaceFrom, newline]
  · simp [replace, replaceFrom, newline, Ne.symm newline]

/-- Lines with something behind each but the last. -/
def endLines (ending : Text) : List Text → List Text
  | [] => []
  | [last] => [last]
  | line :: next :: rest => (line ++ ending) :: endLines ending (next :: rest)

theorem lines_newline_cons (rest : Text) : lines ('\n' :: rest) = [] :: lines rest :=
  List.splitOn_append_cons_self [] rest

theorem lines_cons_of_ne {c : Char} {rest first : Text} {others : List Text} (other : c ≠ '\n')
    (apart : lines rest = first :: others) : lines (c :: rest) = (c :: first) :: others := by
  have free : '\n' ∉ [c] := fun member => other (List.mem_singleton.mp member).symm
  exact splitOn_append_of_free free apart

theorem exists_lines (text : Text) : ∃ first others, lines text = first :: others :=
  exists_splitOnP _ text

theorem lines_replace_newline (text : Text) :
    lines (replace text "\n" "\r\n") = endLines ['\r'] (lines text) := by
  induction text with
  | nil => rfl
  | cons c rest ih =>
    obtain ⟨first, others, split⟩ := exists_lines rest
    rw [replace_newline_cons]
    by_cases newline : c = '\n'
    · subst newline
      have returned : lines ("\r\n" ++ replace rest "\n" "\r\n") =
          ['\r'] :: lines (replace rest "\n" "\r\n") :=
        lines_cons_of_ne (by decide) (lines_newline_cons _)
      rw [if_pos rfl, returned, ih, lines_newline_cons, split]
      rfl
    · rw [if_neg newline, lines_cons_of_ne newline split]
      rw [split] at ih
      cases others with
      | nil => exact lines_cons_of_ne newline ih
      | cons second more => exact lines_cons_of_ne newline ih

theorem trim_append_blanks {text ending : Text} (blanks : ∀ c ∈ ending, isBlank c = true) :
    (text ++ ending).trim = text.trim := by
  rw [trim, trim, trimStart, trimStart, List.dropWhile_append]
  split
  · rename_i empty
    have nothing := trimStart_blanks_append blanks []
    rw [List.append_nil] at nothing
    rw [List.isEmpty_iff.mp empty, show ending.dropWhile isBlank = [] from nothing]
  · exact trimEnd_append_blanks blanks

theorem map_trim_endLines {ending : Text} (blanks : ∀ c ∈ ending, isBlank c = true)
    (texts : List Text) : (endLines ending texts).map trim = texts.map trim := by
  fun_induction endLines ending texts with
  | case1 => rfl
  | case2 last => rfl
  | case3 line next rest ih =>
    rw [List.map_cons, List.map_cons, ih, trim_append_blanks blanks]

/-- The blanks before a text that has anything else are the same whatever follows it. -/
theorem takeWhile_isBlank_append {text : Text} (nonblank : text.trim ≠ []) (ending : Text) :
    (text ++ ending).takeWhile isBlank = text.takeWhile isBlank := by
  have solid : text.takeWhile isBlank ≠ text := by
    intro all
    apply nonblank
    have nothing : text.trimStart = [] := by
      have parts := List.takeWhile_append_dropWhile (p := isBlank) (l := text)
      rw [all] at parts
      exact List.append_cancel_left (parts.trans (List.append_nil text).symm)
    rw [trim, nothing]
    rfl
  have shorter : (text.takeWhile isBlank).length ≠ text.length := by
    intro same
    exact solid ((List.takeWhile_prefix isBlank).eq_of_length same)
  rw [List.takeWhile_append, if_neg shorter]

end Text

/-- Reading a file undoes the change of line ends. -/
theorem unifyNewlines_replace_newline {text : Text} (free : '\r' ∉ text) :
    unifyNewlines (text.replace "\n" "\r\n") = text := by
  induction text with
  | nil => rfl
  | cons c rest ih =>
    have later := ih fun member => free (List.mem_cons_of_mem _ member)
    rw [Text.replace_newline_cons]
    by_cases newline : c = '\n'
    · subst newline
      rw [if_pos rfl]
      exact congrArg ('\n' :: ·) later
    · have other : c ≠ '\r' := fun same => free (same ▸ List.mem_cons_self)
      rw [if_neg newline, unifyNewlines, later]
      · rw [if_neg (fun same => other (beq_iff_eq.mp same))]
      · intro following same
        exact (other same).elim

end PseudoLint
