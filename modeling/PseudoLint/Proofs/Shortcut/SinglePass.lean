import Mathlib.Data.List.Infix
import PseudoLint.Proofs.Shortcut

/-! # Replacing shortcuts in one pass

Shortcuts are replaced one after another, each over the whole text. If no two shortcuts can overlap
in a text, as is so for the standard ones, then no replacement breaks an occurrence of another
shortcut, and signs that occur in no shortcut make up no new one. So all replacements together are a
single pass from left to right that puts the longest shortcut at each place for its sign and copies
every other character (`expand_eq_onePass`).
-/

namespace PseudoLint

namespace Text

variable {old new : Text}

theorem replaceFrom_skip (dropped behind : Text) :
    replaceFrom old new dropped.length (dropped ++ behind) = replaceFrom old new 0 behind := by
  induction dropped with
  | nil => rfl
  | cons c rest ih => exact ih

theorem replaceFrom_of_begins (nonempty : old ≠ []) (behind : Text) :
    replaceFrom old new 0 (old ++ behind) = new ++ replaceFrom old new 0 behind := by
  obtain ⟨c, rest, rfl⟩ := List.exists_cons_of_ne_nil nonempty
  have begins : (c :: rest).isPrefixOf (c :: (rest ++ behind)) = true :=
    List.isPrefixOf_iff_prefix.mpr (List.prefix_append (c :: rest) behind)
  rw [List.cons_append, replaceFrom, if_pos begins]
  exact congrArg (new ++ ·) (replaceFrom_skip rest behind)

/-- A stretch in which no occurrence begins is copied. -/
theorem replaceFrom_append_of_apart {front behind : Text}
    (apart : ∀ place, place <:+ front → place ≠ [] → ¬ old <+: place ++ behind) :
    replaceFrom old new 0 (front ++ behind) = front ++ replaceFrom old new 0 behind := by
  induction front with
  | nil => rfl
  | cons c rest ih =>
    have here := apart (c :: rest) (List.suffix_refl _) (List.cons_ne_nil _ _)
    rw [← List.isPrefixOf_iff_prefix, List.cons_append] at here
    have later := ih fun place inside => apart place (inside.trans (List.suffix_cons c rest))
    rw [List.cons_append, replaceFrom, if_neg here, later]
    rfl

end Text

namespace Shortcut

/-! ## The pass -/

/-- The longest shortcut of a table that begins a text, the first one of those of equal length. -/
def longest? : (table : List (Text × Text)) → Text → Option (Text × Text)
  | [], _ => none
  | shortcut :: rest, text =>
    if shortcut.1.isPrefixOf text then
      match longest? rest text with
      | some other => if shortcut.1.length < other.1.length then some other else some shortcut
      | none => some shortcut
    else longest? rest text

/-- Goes through a text once, replacing at each place the shortcut that is chosen for the text from
there on, after dropping `skip` characters that belong to the shortcut before. -/
def passFrom (choose : Text → Option (Text × Text)) : (skip : Nat) → Text → Text
  | _, [] => []
  | skip + 1, _ :: rest => passFrom choose skip rest
  | 0, c :: rest =>
    match choose (c :: rest) with
    | some shortcut => shortcut.2 ++ passFrom choose (shortcut.1.length - 1) rest
    | none => c :: passFrom choose 0 rest

/-- A single pass that replaces the longest shortcut at each place. -/
def onePass (table : Registry Text) (text : Text) : Text :=
  passFrom (longest? table) 0 text

example : onePass standard "a<<--b!<=<--=!=>" = "a<←b!≤←=≠>" := by decide

theorem longest?_eq_none_iff {table : List (Text × Text)} {text : Text} :
    longest? table text = none ↔ ∀ shortcut ∈ table, ¬ shortcut.1 <+: text := by
  induction table with
  | nil => exact iff_of_true rfl (List.forall_mem_nil _)
  | cons head rest ih =>
    rw [longest?, List.forall_mem_cons, ← List.isPrefixOf_iff_prefix]
    split
    · rename_i begins
      refine iff_of_false ?_ fun misfits => misfits.1 begins
      split
      · split <;> exact Option.some_ne_none _
      · exact Option.some_ne_none _
    · rename_i misfit
      exact ih.trans (and_iff_right misfit).symm

/-- What is chosen begins the text, and no shortcut that does so is longer. -/
theorem longest?_eq_some {table : List (Text × Text)} {text : Text} {shortcut : Text × Text}
    (chosen : longest? table text = some shortcut) :
    shortcut ∈ table ∧ shortcut.1 <+: text ∧
      ∀ other ∈ table, other.1 <+: text → other.1.length ≤ shortcut.1.length := by
  induction table generalizing shortcut with
  | nil => cases chosen
  | cons head rest ih =>
    rw [longest?] at chosen
    split at chosen
    · rename_i begins
      have headBegins := List.isPrefixOf_iff_prefix.mp begins
      cases later : longest? rest text with
      | none =>
        rw [later] at chosen
        cases chosen
        refine ⟨List.mem_cons_self, headBegins, ?_⟩
        refine List.forall_mem_cons.mpr ⟨fun _ => Nat.le_refl _, fun other member fits => ?_⟩
        exact absurd fits (longest?_eq_none_iff.mp later other member)
      | some best =>
        obtain ⟨member, bestBegins, longest⟩ := ih later
        rw [later] at chosen
        dsimp only at chosen
        split at chosen
        · rename_i shorter
          cases chosen
          refine ⟨List.mem_cons_of_mem _ member, bestBegins, ?_⟩
          exact List.forall_mem_cons.mpr ⟨fun _ => Nat.le_of_lt shorter, longest⟩
        · rename_i notShorter
          cases chosen
          refine ⟨List.mem_cons_self, headBegins, ?_⟩
          refine List.forall_mem_cons.mpr ⟨fun _ => Nat.le_refl _, fun other present fits => ?_⟩
          exact Nat.le_trans (longest other present fits) (Nat.le_of_not_lt notShorter)
    · rename_i misfit
      obtain ⟨member, begins, longest⟩ := ih chosen
      refine ⟨List.mem_cons_of_mem _ member, begins, ?_⟩
      refine List.forall_mem_cons.mpr ⟨fun fits => ?_, longest⟩
      exact absurd (List.isPrefixOf_iff_prefix.mpr fits) misfit

section

variable {choose : Text → Option (Text × Text)}

theorem passFrom_skip (dropped behind : Text) :
    passFrom choose dropped.length (dropped ++ behind) = passFrom choose 0 behind := by
  induction dropped with
  | nil => rfl
  | cons c rest ih => exact ih

theorem passFrom_of_chosen {shortcut : Text × Text} {behind : Text}
    (chosen : choose (shortcut.1 ++ behind) = some shortcut) (nonempty : shortcut.1 ≠ []) :
    passFrom choose 0 (shortcut.1 ++ behind) = shortcut.2 ++ passFrom choose 0 behind := by
  obtain ⟨c, rest, split⟩ := List.exists_cons_of_ne_nil nonempty
  rw [split, List.cons_append] at chosen ⊢
  rw [passFrom, chosen]
  dsimp only
  rw [split]
  exact congrArg (shortcut.2 ++ ·) (passFrom_skip rest behind)

theorem passFrom_of_none {c : Char} {rest : Text} (misfit : choose (c :: rest) = none) :
    passFrom choose 0 (c :: rest) = c :: passFrom choose 0 rest := by
  rw [passFrom, misfit]

end

/-! ## Shortcuts that do not overlap -/

/-- No two shortcuts can overlap in a text: what is left of a shortcut behind some of its first
characters neither begins another one nor is begun by it. -/
def Separate (table : List (Text × Text)) : Prop :=
  ∀ first ∈ table, ∀ second ∈ table, ∀ place, place <:+ first.1 → place ≠ [] →
    second.1 <+: place ∨ place <+: second.1 → second = first ∧ place = first.1

/-- The first of some shortcuts that begins a text. -/
def firstFit? (shortcuts : List (Text × Text)) (text : Text) : Option (Text × Text) :=
  shortcuts.find? (·.1.isPrefixOf text)

theorem of_firstFit? {shortcuts : List (Text × Text)} {text : Text} {shortcut : Text × Text}
    (found : firstFit? shortcuts text = some shortcut) :
    shortcut ∈ shortcuts ∧ shortcut.1 <+: text :=
  ⟨List.mem_of_find?_eq_some found,
    List.isPrefixOf_iff_prefix.mp (List.find?_some (p := fun other : Text × Text =>
      other.1.isPrefixOf text) found)⟩

theorem passFrom_firstFit?_nil (text : Text) : passFrom (firstFit? []) 0 text = text := by
  induction text with
  | nil => rfl
  | cons c rest ih => rw [passFrom_of_none rfl, ih]

section

variable {table : Registry Text} (signs : SignTable table) (separate : Separate table)

include separate in
/-- A shortcut that begins inside an occurrence of another one is this very occurrence. -/
theorem Separate.eq_of_begins {first second : Text × Text} (firstIn : first ∈ table)
    (secondIn : second ∈ table) {place behind : Text} (inside : place <:+ first.1)
    (nonempty : place ≠ []) (begins : second.1 <+: place ++ behind) :
    second = first ∧ place = first.1 :=
  separate first firstIn second secondIn place inside nonempty
    (List.prefix_or_prefix_of_prefix begins (List.prefix_append place behind))

include signs separate in
/-- Where a shortcut stands, it is the only one that fits. -/
theorem firstFit?_append {shortcuts : List (Text × Text)} (listed : shortcuts ⊆ table)
    {shortcut : Text × Text} (member : shortcut ∈ shortcuts) (behind : Text) :
    firstFit? shortcuts (shortcut.1 ++ behind) = some shortcut := by
  have fits : shortcut.1.isPrefixOf (shortcut.1 ++ behind) = true :=
    List.isPrefixOf_iff_prefix.mpr (List.prefix_append ..)
  cases found : firstFit? shortcuts (shortcut.1 ++ behind) with
  | none => exact absurd fits (List.find?_eq_none.mp found shortcut member)
  | some other =>
    obtain ⟨present, begins⟩ := of_firstFit? found
    rw [(separate.eq_of_begins (listed member) (listed present) (List.suffix_refl _)
      (signs shortcut (listed member)).1 begins).1]

include signs in
/-- A sign that occurs in no shortcut begins none. -/
theorem firstFit?_sign {shortcuts : List (Text × Text)} (listed : shortcuts ⊆ table) {sign : Char}
    (apart : ∀ other ∈ table, sign ∉ other.1) (behind : Text) :
    firstFit? shortcuts (sign :: behind) = none := by
  apply List.find?_eq_none.mpr
  intro other member
  obtain ⟨c, rest, split⟩ := List.exists_cons_of_ne_nil (signs other (listed member)).1
  have differs : c ≠ sign := by
    rintro rfl
    exact apart other (listed member) (split ▸ List.mem_cons_self)
  rw [split, List.isPrefixOf_cons_cons, beq_false_of_ne differs]
  exact Bool.false_ne_true

include signs separate in
/-- Choosing the longest shortcut is choosing the only one that fits, in whatever order they are
listed. -/
theorem longest?_eq_firstFit? {shortcuts : List (Text × Text)} (permuted : shortcuts.Perm table) :
    longest? table = firstFit? shortcuts := by
  funext text
  cases chosen : longest? table text with
  | none =>
    symm
    apply List.find?_eq_none.mpr
    intro shortcut member
    rw [List.isPrefixOf_iff_prefix]
    exact longest?_eq_none_iff.mp chosen shortcut (permuted.mem_iff.mp member)
  | some shortcut =>
    obtain ⟨member, ⟨behind, rfl⟩, -⟩ := longest?_eq_some chosen
    have fits :=
      firstFit?_append signs separate permuted.subset (permuted.mem_iff.mpr member) behind
    exact fits.symm

include signs separate in
/-- The pass for some shortcuts may follow the replacement of one more over the whole text. -/
theorem passFrom_replaceFrom {shortcut : Text × Text} {rest : List (Text × Text)}
    (listed : shortcut :: rest ⊆ table) (text : Text) :
    passFrom (firstFit? rest) 0 (Text.replaceFrom shortcut.1 shortcut.2 0 text) =
      passFrom (firstFit? (shortcut :: rest)) 0 text := by
  have first : shortcut ∈ table := listed List.mem_cons_self
  have others : rest ⊆ table := fun other member => listed (List.mem_cons_of_mem _ member)
  obtain ⟨nonempty, sign, stands, apart⟩ := signs shortcut first
  rw [stands]
  -- Each step takes a whole occurrence or one character off the text.
  induction size : text.length using Nat.strongRecOn generalizing text with
  | _ size ih =>
    subst size
    cases fitting : firstFit? (shortcut :: rest) text with
    | some chosen =>
      obtain ⟨member, behind, rfl⟩ := of_firstFit? fitting
      have chosenSome := (signs chosen (listed member)).1
      have shorter : behind.length < (chosen.1 ++ behind).length := by
        have positive := List.length_pos_iff.mpr chosenSome
        rw [List.length_append]
        omega
      have later := ih behind.length shorter behind rfl
      rw [passFrom_of_chosen fitting chosenSome, ← later]
      by_cases same : chosen = shortcut
      · -- The sign that takes the place of the shortcut begins no other one.
        subst same
        rw [Text.replaceFrom_of_begins nonempty, List.singleton_append,
          passFrom_of_none (firstFit?_sign signs others apart _), stands]
        rfl
      · have present : chosen ∈ rest := (List.mem_cons.mp member).resolve_left same
        have untouched : Text.replaceFrom shortcut.1 [sign] 0 (chosen.1 ++ behind) =
            chosen.1 ++ Text.replaceFrom shortcut.1 [sign] 0 behind := by
          apply Text.replaceFrom_append_of_apart
          intro place inside nonempty begins
          exact same (separate.eq_of_begins (listed member) first inside nonempty begins).1.symm
        rw [untouched]
        exact passFrom_of_chosen (firstFit?_append signs separate others present _) chosenSome
    | none =>
      cases text with
      | nil => rfl
      | cons c behind =>
        have misfits : ∀ other ∈ shortcut :: rest, ¬ other.1.isPrefixOf (c :: behind) = true :=
          List.find?_eq_none.mp fitting
        have copied : Text.replaceFrom shortcut.1 [sign] 0 (c :: behind) =
            c :: Text.replaceFrom shortcut.1 [sign] 0 behind := by
          rw [Text.replaceFrom, if_neg (misfits shortcut List.mem_cons_self)]
        -- What fits after the replacement fitted before it.
        have unfitting :
            firstFit? rest (c :: Text.replaceFrom shortcut.1 [sign] 0 behind) = none := by
          rw [← copied]
          apply List.find?_eq_none.mpr
          intro other member begins
          exact misfits other (List.mem_cons_of_mem _ member)
            (Text.isPrefixOf_of_replaceFrom (apart other (others member)) begins)
        rw [copied, passFrom_of_none unfitting, passFrom_of_none fitting,
          ih behind.length (Nat.lt_succ_self _) behind rfl]

include signs separate in
/-- Replacing some shortcuts of a table one after another is one pass for all of them. -/
theorem foldl_replace_eq_passFrom {shortcuts : List (Text × Text)} (listed : shortcuts ⊆ table)
    (text : Text) :
    shortcuts.foldl (fun text shortcut => text.replace shortcut.1 shortcut.2) text =
      passFrom (firstFit? shortcuts) 0 text := by
  induction shortcuts generalizing text with
  | nil => exact (passFrom_firstFit?_nil text).symm
  | cons shortcut rest ih =>
    have nonempty := (signs shortcut (listed List.mem_cons_self)).1
    rw [List.foldl_cons, ih fun other member => listed (List.mem_cons_of_mem _ member),
      Text.replace_eq_replaceFrom nonempty]
    exact passFrom_replaceFrom signs separate listed text

include signs separate in
/-- Replacing the shortcuts of a table one after another is one pass that takes the longest one at
each place. -/
theorem expand_eq_onePass (text : Text) : expand table text = onePass table text := by
  have permuted := inOrder_perm table
  rw [expand, foldl_replace_eq_passFrom signs separate permuted.subset, onePass,
    longest?_eq_firstFit? signs separate permuted]

end

/-! ## The standard shortcuts -/

theorem separate_standard : Separate standard := by
  -- The places are tested as the ends of a shortcut, of which there are finitely many.
  have tested : ∀ first ∈ standard, ∀ second ∈ standard, ∀ place ∈ first.1.tails, place ≠ [] →
      (second.1.isPrefixOf place || place.isPrefixOf second.1) = true →
        second = first ∧ place = first.1 := by
    decide
  intro first firstIn second secondIn place inside nonempty overlap
  have ending : place ∈ first.1.tails := (List.mem_tails place first.1).mpr inside
  apply tested first firstIn second secondIn place ending nonempty
  simpa only [Bool.or_eq_true, List.isPrefixOf_iff_prefix] using overlap

/-- Replacing the standard shortcuts is one pass that takes the longest one at each place. It leaves
none of them, and replacing them again changes nothing. -/
theorem standard_replaced_in_one_pass (text : Text) :
    expand standard text = onePass standard text ∧
      (∀ shortcut ∈ standard, (expand standard text).hasInfix shortcut.1 = false) ∧
      expand standard (expand standard text) = expand standard text :=
  ⟨expand_eq_onePass signTable_standard separate_standard text,
    fun _ present => signTable_standard.hasInfix_expand text present,
    signTable_standard.expand_expand text⟩

end Shortcut

end PseudoLint
