import Mathlib.Data.Char
import Mathlib.Data.List.Lex
import PseudoLint.Config
import PseudoLint.Proofs.Text.UpperTwice

/-! # Accepted configurations

What each member of a configuration may be is said here without the readers. A JSON value is
accepted if and only if it is an object with known members only, each of which is what it may be;
otherwise the fault names one member by a fixed rule. A configuration that was read is well formed:
it has a positive unit of indentation and non-empty file modes in capitals, whether the object gives
them or leaves them to the standard values. A well-formed one can be written as an object and read
back, since capitals stay as they are.
-/

namespace PseudoLint

/-- The order of names is that of their code points, the first difference deciding. -/
theorem Text.ordered_iff {left right : Text} : ordered left right = true ↔ left ≤ right := by
  induction left generalizing right with
  | nil => cases right <;> simp [ordered, le_iff_lt_or_eq]
  | cons a left ih =>
    cases right with
    | nil => simp [ordered, le_iff_lt_or_eq]
    | cons b right =>
      have order : a.toNat < b.toNat ↔ a < b := Iff.rfl
      simp only [ordered, Bool.or_eq_true, Bool.and_eq_true, decide_eq_true_eq, beq_iff_eq, ih,
        order, le_iff_lt_or_eq, List.cons_lt_cons_iff, List.cons.injEq, and_or_left, or_assoc]

namespace Config

/-! ## The least unknown member -/

theorem least?_eq_none_iff {texts : List Text} : least? texts = none ↔ texts = [] := by
  cases texts with
  | nil => exact ⟨fun _ => rfl, fun _ => rfl⟩
  | cons text rest =>
    refine ⟨fun missing => ?_, fun empty => by cases empty⟩
    rw [least?] at missing
    split at missing <;> cases missing

theorem least?_spec {texts : List Text} {least : Text} (found : least? texts = some least) :
    least ∈ texts ∧ ∀ other ∈ texts, least ≤ other := by
  induction texts generalizing least with
  | nil => cases found
  | cons text rest ih =>
    rw [least?] at found
    cases later : least? rest with
    | none =>
      rw [later] at found
      cases found
      rw [least?_eq_none_iff.mp later]
      exact ⟨List.mem_singleton_self _, List.forall_mem_singleton.mpr (le_refl _)⟩
    | some best =>
      obtain ⟨present, below⟩ := ih later
      rw [later] at found
      dsimp only at found
      cases first : Text.ordered text best with
      | true =>
        rw [first] at found
        cases found
        refine ⟨List.mem_cons_self, List.forall_mem_cons.mpr ⟨le_refl _, ?_⟩⟩
        exact fun other member => le_trans (Text.ordered_iff.mp first) (below other member)
      | false =>
        rw [first] at found
        cases found
        have behind : best ≤ text := by
          refine (le_total best text).resolve_right fun before => ?_
          rw [Text.ordered_iff.mpr before] at first
          cases first
        exact ⟨List.mem_cons_of_mem _ present, List.forall_mem_cons.mpr ⟨behind, below⟩⟩

/-! ## What the members may be -/

/-- An integer from one on. -/
def IsIndentUnit (value : Json) : Prop :=
  ∃ unit : Int, 1 ≤ unit ∧ value = .int unit

/-- A non-empty list of non-empty strings. -/
def AreFileModes (value : Json) : Prop :=
  ∃ modes : List Text, modes ≠ [] ∧ (∀ mode ∈ modes, mode ≠ []) ∧ value = .arr (modes.map .str)

/-- An object of strings without an empty key. -/
def AreShortcuts (value : Json) : Prop :=
  ∃ table : List (Text × Text), (∀ shortcut ∈ table, shortcut.1 ≠ []) ∧
    value = .obj (table.map fun shortcut => (shortcut.1, .str shortcut.2))

/-- A member of an object, if it is present, is what it may be. -/
def Allows (members : Registry Json) (key : Text) (valid : Json → Prop) : Prop :=
  ∀ value, members.get? key = some value → valid value

/-- A setting has its standard value if the member is absent, and else what the member spells. -/
def Sets {α : Type} (members : Registry Json) (key : Text) (standard : α)
    (spells : Json → α → Prop) (setting : α) : Prop :=
  (members.get? key = none → setting = standard) ∧
    ∀ value, members.get? key = some value → spells value setting

/-- The objects that the documentation allows. -/
structure Documented (members : Registry Json) : Prop where
  known : ∀ key ∈ members.names, key ∈ knownKeys
  indentUnit : Allows members "indent_unit" IsIndentUnit
  fileModes : Allows members "file_modes" AreFileModes
  shortcuts : Allows members "shortcuts" AreShortcuts

/-- The configuration that an object describes. -/
structure Describes (members : Registry Json) (config : Config) : Prop where
  indentUnit : Sets members "indent_unit" 3 (fun value unit => value = .int unit) config.indentUnit
  fileModes : Sets members "file_modes" (["READ", "WRITE", "APPEND"] : List Text)
    (fun value modes => ∃ texts : List Text,
      value = .arr (texts.map .str) ∧ modes = texts.map Text.upper) config.fileModes
  shortcuts : Sets members "shortcuts" Shortcut.standard
    (fun value table => value = .obj (table.map fun shortcut => (shortcut.1, .str shortcut.2)))
    config.shortcuts

/-- The member that a refusal of a value names. -/
inductive Blames : Json → Option Text → Prop
  /-- A value that is no object has no members to name. -/
  | notAnObject {json : Json} (other : ∀ members, json ≠ .obj members) : Blames json none
  /-- The least of the unknown members comes before all else. -/
  | unknown {members : Registry Json} {key : Text} (present : key ∈ members.names)
      (unknown : key ∉ knownKeys)
      (least : ∀ other ∈ members.names, other ∉ knownKeys → key ≤ other) :
      Blames (.obj members) (some key)
  | indentUnit {members : Registry Json} (known : ∀ key ∈ members.names, key ∈ knownKeys)
      (wrong : ¬ Allows members "indent_unit" IsIndentUnit) :
      Blames (.obj members) (some "indent_unit")
  | fileModes {members : Registry Json} (known : ∀ key ∈ members.names, key ∈ knownKeys)
      (unit : Allows members "indent_unit" IsIndentUnit)
      (wrong : ¬ Allows members "file_modes" AreFileModes) :
      Blames (.obj members) (some "file_modes")
  | shortcuts {members : Registry Json} (known : ∀ key ∈ members.names, key ∈ knownKeys)
      (unit : Allows members "indent_unit" IsIndentUnit)
      (modes : Allows members "file_modes" AreFileModes)
      (wrong : ¬ Allows members "shortcuts" AreShortcuts) :
      Blames (.obj members) (some "shortcuts")

/-! ## The readers -/

/-- A reader that answers for the values of a kind, and for no others, with what they spell. -/
structure Reads {α : Type} (read? : Json → Option α) (valid : Json → Prop)
    (spells : Json → α → Prop) : Prop where
  sound : ∀ value result, read? value = some result → valid value ∧ spells value result
  complete : ∀ value, valid value → ∃ result, read? value = some result

theorem mapM_eq_some_iff {α β : Type} {read? : α → Option β} {write : β → α} {valid : β → Prop}
    (exact : ∀ value result, read? value = some result ↔ valid result ∧ value = write result)
    {values : List α} {results : List β} :
    values.mapM read? = some results ↔
      (∀ result ∈ results, valid result) ∧ values = results.map write := by
  induction values generalizing results with
  | nil =>
    cases results <;> simp
  | cons value rest ih =>
    simp only [List.mapM_cons, bind, pure, Option.bind_eq_some_iff, exact, ih, Option.some.injEq]
    constructor
    · rintro ⟨result, ⟨first, rfl⟩, others, ⟨later, rfl⟩, rfl⟩
      exact ⟨List.forall_mem_cons.mpr ⟨first, later⟩, rfl⟩
    · rintro ⟨all, same⟩
      cases results with
      | nil => cases same
      | cons result others =>
        obtain ⟨first, later⟩ := List.forall_mem_cons.mp all
        cases same
        exact ⟨result, ⟨first, rfl⟩, others, ⟨later, rfl⟩, rfl⟩

theorem readIndentUnit?_eq_some_iff {value : Json} {unit : Int} :
    readIndentUnit? value = some unit ↔ 1 ≤ unit ∧ value = .int unit := by
  cases value with
  | int given =>
    simp only [readIndentUnit?, Option.ite_none_right_eq_some, Option.some.injEq, Json.int.injEq]
    constructor
    · rintro ⟨positive, rfl⟩
      exact ⟨positive, rfl⟩
    · rintro ⟨positive, rfl⟩
      exact ⟨positive, rfl⟩
  | null | bool | float | str | arr | obj => simp [readIndentUnit?]

theorem readMode?_eq_some_iff (value : Json) (mode : Text) :
    readMode? value = some mode ↔ mode ≠ [] ∧ value = .str mode := by
  cases value with
  | str text =>
    cases text with
    | nil =>
      simp only [readMode?, Json.str.injEq, reduceCtorEq, false_iff, not_and]
      exact fun nonempty same => nonempty same.symm
    | cons c rest =>
      simp only [readMode?, Option.some.injEq, Json.str.injEq]
      constructor
      · rintro rfl
        exact ⟨List.cons_ne_nil c rest, rfl⟩
      · exact And.right
  | null | bool | int | float | arr | obj => simp [readMode?]

theorem readShortcut?_eq_some_iff (member : Text × Json) (shortcut : Text × Text) :
    readShortcut? member = some shortcut ↔
      shortcut.1 ≠ [] ∧ member = (shortcut.1, .str shortcut.2) := by
  obtain ⟨key, value⟩ := member
  obtain ⟨start, symbol⟩ := shortcut
  cases key with
  | nil =>
    simp only [readShortcut?, Prod.mk.injEq, reduceCtorEq, false_iff, not_and]
    exact fun nonempty same => absurd same.symm nonempty
  | cons c rest =>
    cases value with
    | str text =>
      simp only [readShortcut?, Option.some.injEq, Prod.mk.injEq, Json.str.injEq]
      constructor
      · rintro ⟨rfl, rfl⟩
        exact ⟨List.cons_ne_nil c rest, rfl, rfl⟩
      · exact And.right
    | null | bool | int | float | arr | obj => simp [readShortcut?]

theorem readFileModes?_eq_some_iff {value : Json} {modes : List Text} :
    readFileModes? value = some modes ↔ ∃ texts : List Text, texts ≠ [] ∧
      (∀ text ∈ texts, text ≠ []) ∧ value = .arr (texts.map .str) ∧
        modes = texts.map Text.upper := by
  have read {values : List Json} {texts : List Text} : values.mapM readMode? = some texts ↔
      (∀ text ∈ texts, text ≠ []) ∧ values = texts.map .str :=
    mapM_eq_some_iff readMode?_eq_some_iff
  cases value with
  | arr values =>
    cases values with
    | nil =>
      simp only [readFileModes?, reduceCtorEq, Json.arr.injEq, false_iff]
      rintro ⟨texts, nonempty, -, same, -⟩
      exact nonempty (List.map_eq_nil_iff.mp same.symm)
    | cons first rest =>
      simp only [readFileModes?, Option.map_eq_some_iff, read, Json.arr.injEq]
      constructor
      · rintro ⟨texts, ⟨spelled, same⟩, rfl⟩
        refine ⟨texts, fun nothing => ?_, spelled, same, rfl⟩
        rw [nothing] at same
        cases same
      · rintro ⟨texts, -, spelled, same, rfl⟩
        exact ⟨texts, ⟨spelled, same⟩, rfl⟩
  | null | bool | int | float | str | obj => simp [readFileModes?]

theorem readShortcuts?_eq_some_iff {value : Json} {table : Registry Text} :
    readShortcuts? value = some table ↔ (∀ shortcut ∈ table, shortcut.1 ≠ []) ∧
      value = .obj (table.map fun shortcut => (shortcut.1, .str shortcut.2)) := by
  cases value with
  | obj members =>
    rw [readShortcuts?, mapM_eq_some_iff readShortcut?_eq_some_iff, Json.obj.injEq]
  | null | bool | int | float | str | arr => simp [readShortcuts?]

theorem reads_indentUnit :
    Reads readIndentUnit? IsIndentUnit fun value unit => value = .int unit where
  sound _ unit read :=
    have spelled := readIndentUnit?_eq_some_iff.mp read
    ⟨⟨unit, spelled⟩, spelled.2⟩
  complete := by
    rintro value ⟨unit, spelled⟩
    exact ⟨unit, readIndentUnit?_eq_some_iff.mpr spelled⟩

theorem reads_fileModes : Reads readFileModes? AreFileModes fun value modes =>
    ∃ texts : List Text, value = .arr (texts.map .str) ∧ modes = texts.map Text.upper where
  sound := by
    intro value modes read
    obtain ⟨texts, nonempty, spelled, given, capitals⟩ := readFileModes?_eq_some_iff.mp read
    exact ⟨⟨texts, nonempty, spelled, given⟩, texts, given, capitals⟩
  complete := by
    rintro value ⟨texts, nonempty, spelled, given⟩
    exact ⟨_, readFileModes?_eq_some_iff.mpr ⟨texts, nonempty, spelled, given, rfl⟩⟩

theorem reads_shortcuts : Reads readShortcuts? AreShortcuts fun value table =>
    value = .obj (table.map fun shortcut => (shortcut.1, .str shortcut.2)) where
  sound _ table read :=
    have spelled := readShortcuts?_eq_some_iff.mp read
    ⟨⟨table, spelled⟩, spelled.2⟩
  complete := by
    rintro value ⟨table, spelled⟩
    exact ⟨table, readShortcuts?_eq_some_iff.mpr spelled⟩

theorem readMember_cases {α : Type} {read? : Json → Option α} {valid : Json → Prop}
    {spells : Json → α → Prop} (reads : Reads read? valid spells) (members : Registry Json)
    (key : Text) (standard : α) (fault : Fault) :
    (Allows members key valid ∧ ∃ setting,
      readMember members key standard read? fault = .ok setting ∧
        Sets members key standard spells setting) ∨
      (¬ Allows members key valid ∧
        readMember members key standard read? fault = .error fault) := by
  unfold readMember Allows Sets
  cases given : members.get? key with
  | none =>
    exact .inl ⟨fun _ => nofun, standard, rfl, fun _ => rfl, fun _ => nofun⟩
  | some value =>
    cases read : read? value with
    | none =>
      refine .inr ⟨fun allows => ?_, by simp only [read]⟩
      obtain ⟨result, answered⟩ := reads.complete value (allows value rfl)
      rw [read] at answered
      cases answered
    | some result =>
      obtain ⟨valid, spelled⟩ := reads.sound value result read
      refine .inl ⟨?_, result, by simp only [read], nofun, ?_⟩
      · rintro _ ⟨⟩
        exact valid
      · rintro _ ⟨⟩
        exact spelled

/-! ## Acceptance -/

theorem ofJson_obj_cases (members : Registry Json) :
    (Documented members ∧ ∃ config, ofJson (.obj members) = .ok config ∧
      Describes members config) ∨
      (¬ Documented members ∧ ∃ fault, ofJson (.obj members) = .error fault ∧
        Blames (.obj members) fault.key?) := by
  cases found : least? (members.names.filter (!knownKeys.contains ·)) with
  | some key =>
    obtain ⟨listed, least⟩ := least?_spec found
    obtain ⟨present, unknown⟩ := List.mem_filter.mp listed
    have outside : key ∉ knownKeys := by simpa using unknown
    refine .inr ⟨fun documented => outside (documented.known key present), .unknownKey key, ?_, ?_⟩
    · simp only [ofJson, found]
    · refine .unknown present outside fun other member strange => least other ?_
      exact List.mem_filter.mpr ⟨member, by simpa using strange⟩
  | none =>
    have known : ∀ key ∈ members.names, key ∈ knownKeys := by
      intro key member
      have absent := List.filter_eq_nil_iff.mp (least?_eq_none_iff.mp found) key member
      simpa using absent
    rcases readMember_cases reads_indentUnit members "indent_unit" 3 .indentUnit with
      ⟨unitAllowed, unit, unitRead, unitSet⟩ | ⟨wrong, failed⟩
    · rcases readMember_cases reads_fileModes members "file_modes" ["READ", "WRITE", "APPEND"]
          .fileModes with ⟨modesAllowed, modes, modesRead, modesSet⟩ | ⟨wrong, failed⟩
      · rcases readMember_cases reads_shortcuts members "shortcuts" Shortcut.standard
            .shortcuts with ⟨tableAllowed, table, tableRead, tableSet⟩ | ⟨wrong, failed⟩
        · refine .inl ⟨⟨known, unitAllowed, modesAllowed, tableAllowed⟩, ⟨unit, modes, table⟩, ?_,
            ⟨unitSet, modesSet, tableSet⟩⟩
          simp only [ofJson, found, unitRead, modesRead, tableRead, bind, Except.bind, pure,
            Except.pure]
        · refine .inr ⟨fun documented => wrong documented.shortcuts, .shortcuts, ?_,
            .shortcuts known unitAllowed modesAllowed wrong⟩
          simp only [ofJson, found, unitRead, modesRead, failed, bind, Except.bind]
      · refine .inr ⟨fun documented => wrong documented.fileModes, .fileModes, ?_,
          .fileModes known unitAllowed wrong⟩
        simp only [ofJson, found, unitRead, failed, bind, Except.bind]
    · refine .inr ⟨fun documented => wrong documented.indentUnit, .indentUnit, ?_,
        .indentUnit known wrong⟩
      simp only [ofJson, found, failed, bind, Except.bind]

/-! ## Accepted configurations are accepted again -/

/-- What holds of every configuration that is read. -/
structure WellFormed (config : Config) : Prop where
  indentUnit : 1 ≤ config.indentUnit
  fileModes : config.fileModes ≠ [] ∧
    ∀ mode ∈ config.fileModes, mode ≠ [] ∧ mode.upper = mode
  shortcuts : ∀ shortcut ∈ config.shortcuts, shortcut.1 ≠ []

/-- What holds of the standard value and of all values that can be spelled holds of a setting. -/
theorem Sets.elim {α : Type} {members : Registry Json} {key : Text} {standard setting : α}
    {valid : Json → Prop} {spells : Json → α → Prop} {P : α → Prop}
    (sets : Sets members key standard spells setting) (allows : Allows members key valid)
    (absent : P standard) (present : ∀ value, valid value → spells value setting → P setting) :
    P setting := by
  cases given : members.get? key with
  | none =>
    rw [sets.1 given]
    exact absent
  | some value => exact present value (allows value given) (sets.2 value given)

theorem wellFormed_of_describes {members : Registry Json} {config : Config}
    (documented : Documented members) (describes : Describes members config) :
    WellFormed config where
  indentUnit := by
    refine describes.indentUnit.elim documented.indentUnit (by decide) ?_
    rintro _ ⟨unit, positive, rfl⟩ same
    rwa [← Json.int.inj same]
  fileModes := by
    refine describes.fileModes.elim documented.fileModes
      (P := fun modes : List Text => modes ≠ [] ∧ ∀ mode ∈ modes, mode ≠ [] ∧ mode.upper = mode)
      (by decide) ?_
    rintro _ ⟨texts, nonempty, spelled, rfl⟩ ⟨others, same, capitals⟩
    have strings : texts = others :=
      (List.map_inj_right fun _ _ => Json.str.inj).mp (Json.arr.inj same)
    rw [capitals, ← strings]
    refine ⟨mt List.map_eq_nil_iff.mp nonempty, ?_⟩
    intro mode member
    obtain ⟨text, listed, rfl⟩ := List.mem_map.mp member
    exact ⟨Text.upper_ne_nil (spelled text listed), Text.upper_upper text⟩
  shortcuts := by
    refine describes.shortcuts.elim documented.shortcuts
      (P := fun table => ∀ shortcut ∈ table, shortcut.1 ≠ []) (by decide) ?_
    rintro _ ⟨table, nonempty, rfl⟩ same
    have entries : table = config.shortcuts := by
      refine (List.map_inj_right ?_).mp (Json.obj.inj same)
      rintro ⟨key, symbol⟩ ⟨other, sign⟩ equal
      cases equal
      rfl
    rwa [← entries]

theorem readMember_of_get? {α : Type} {members : Registry Json} {key : Text} {standard : α}
    {read? : Json → Option α} {fault : Fault} {value : Json} {setting : α}
    (given : members.get? key = some value) (read : read? value = some setting) :
    readMember members key standard read? fault = .ok setting := by
  simp only [readMember, given, read]

/-- A well-formed configuration is read back from the object that describes it. -/
theorem ofJson_toJson {config : Config} (wellFormed : WellFormed config) :
    ofJson config.toJson = .ok config := by
  have unit : readIndentUnit? (.int config.indentUnit) = some config.indentUnit :=
    readIndentUnit?_eq_some_iff.mpr ⟨wellFormed.indentUnit, rfl⟩
  have modes : readFileModes? (.arr (config.fileModes.map .str)) = some config.fileModes := by
    obtain ⟨nonempty, each⟩ := wellFormed.fileModes
    have capitals : config.fileModes = config.fileModes.map Text.upper := by
      rw [List.map_congr_left fun mode member => (each mode member).2, List.map_id']
    exact readFileModes?_eq_some_iff.mpr
      ⟨_, nonempty, fun mode member => (each mode member).1, rfl, capitals⟩
  have table : readShortcuts? (.obj (config.shortcuts.map fun shortcut =>
      (shortcut.1, .str shortcut.2))) = some config.shortcuts :=
    readShortcuts?_eq_some_iff.mpr ⟨wellFormed.shortcuts, rfl⟩
  have known : least? (knownKeys.filter (!knownKeys.contains ·)) = none := by decide
  obtain ⟨members, given, names, first, second, third⟩ : ∃ members : Registry Json,
      config.toJson = .obj members ∧ members.names = knownKeys ∧
      members.get? "indent_unit" = some (.int config.indentUnit) ∧
      members.get? "file_modes" = some (.arr (config.fileModes.map .str)) ∧
      members.get? "shortcuts" =
        some (.obj (config.shortcuts.map fun shortcut => (shortcut.1, .str shortcut.2))) :=
    ⟨_, rfl, rfl, rfl, rfl, rfl⟩
  rw [given]
  simp only [ofJson, names, known, readMember_of_get? first unit, readMember_of_get? second modes,
    readMember_of_get? third table, bind, Except.bind, pure, Except.pure]

/-- A configuration is accepted as what its documented members describe. -/
theorem describes_of_ofJson {json : Json} {config : Config} (accepted : ofJson json = .ok config) :
    ∃ members, json = .obj members ∧ Documented members ∧ Describes members config := by
  cases json with
  | obj members =>
    rcases ofJson_obj_cases members with
      ⟨documented, answer, read, describes⟩ | ⟨-, fault, failed, -⟩
    · rw [read] at accepted
      cases accepted
      exact ⟨members, rfl, documented, describes⟩
    · rw [failed] at accepted
      cases accepted
  | null | bool | int | float | str | arr => cases accepted

theorem wellFormed_of_ofJson {json : Json} {config : Config} (accepted : ofJson json = .ok config) :
    WellFormed config := by
  obtain ⟨members, -, documented, describes⟩ := describes_of_ofJson accepted
  exact wellFormed_of_describes documented describes

theorem indentUnit_pos {json : Json} {config : Config} (accepted : ofJson json = .ok config) :
    1 ≤ config.indentUnit :=
  (wellFormed_of_ofJson accepted).indentUnit

/-- Every configured mode is the upper-case form of some text. -/
theorem upper_of_mem_fileModes {json : Json} {config : Config}
    (accepted : ofJson json = .ok config) :
    ∀ mode ∈ config.fileModes, ∃ text : Text, text ≠ [] ∧ mode = text.upper := by
  intro mode member
  obtain ⟨nonempty, capitals⟩ := (wellFormed_of_ofJson accepted).fileModes.2 mode member
  exact ⟨mode, nonempty, capitals.symm⟩

/-- The documented objects are the configurations. Any other value is refused with a fault that
names the member that is to blame. An accepted object describes the configuration that is answered,
and the object that describes this configuration in full is accepted as it. -/
theorem accepts_documented (json : Json) :
    ((∃ config, ofJson json = .ok config) ↔
      ∃ members, json = .obj members ∧ Documented members) ∧
    ((¬ ∃ members, json = .obj members ∧ Documented members) →
      ∃ fault, ofJson json = .error fault ∧ Blames json fault.key?) ∧
    ∀ config, ofJson json = .ok config →
      (∃ members, json = .obj members ∧ Describes members config) ∧
        ofJson config.toJson = .ok config := by
  cases json with
  | obj members =>
    have only : (∃ others, Json.obj members = .obj others ∧ Documented others) ↔
        Documented members := by
      constructor
      · rintro ⟨_, ⟨⟩, documented⟩
        exact documented
      · exact fun documented => ⟨members, rfl, documented⟩
    rw [only]
    rcases ofJson_obj_cases members with
      ⟨documented, answer, read, describes⟩ | ⟨undocumented, fault, failed, blames⟩
    · refine ⟨iff_of_true ⟨answer, read⟩ documented, (absurd documented ·), ?_⟩
      intro config accepted
      rw [read] at accepted
      cases accepted
      exact ⟨⟨members, rfl, describes⟩, ofJson_toJson (wellFormed_of_ofJson read)⟩
    · rw [failed]
      refine ⟨iff_of_false ?_ undocumented, fun _ => ⟨fault, rfl, blames⟩, fun _ => nofun⟩
      rintro ⟨_, ⟨⟩⟩
  | null | bool | int | float | str | arr =>
    refine ⟨iff_of_false ?_ ?_, fun _ => ⟨.notAnObject, rfl, .notAnObject ?_⟩, fun _ => nofun⟩
    · rintro ⟨_, ⟨⟩⟩
    · rintro ⟨_, ⟨⟩, -⟩
    · exact fun _ => nofun

/-- A mode whose upper-case form is longer is accepted and stays as it is; of several faults an
unknown member is the one that is named, and the least of them. -/
theorem mode_with_sharp_s_accepted :
    let faulty : Json := .obj [("indent_unit", .bool true), ("zeta", .null), ("alpha", .null)]
    (∃ config, ofJson (.obj [("file_modes", .arr [.str "Maß"])]) = .ok config ∧
      config.fileModes = ["MASS".toList] ∧ ofJson config.toJson = .ok config) ∧
    ∃ fault, ofJson faulty = .error fault ∧ fault.key? = some "alpha" ∧
      Blames faulty fault.key? := by
  intro faulty
  have accepted : ofJson (.obj [("file_modes", .arr [.str "Maß"])]) =
      .ok { fileModes := ["MASS".toList] } := rfl
  have undocumented : ¬ ∃ members, faulty = .obj members ∧ Documented members := by
    rintro ⟨members, same, documented⟩
    rw [← Json.obj.inj same] at documented
    exact absurd (documented.known "zeta" (by decide)) (by decide)
  have named : ofJson faulty = .error (.unknownKey "alpha") := rfl
  obtain ⟨fault, refused, blames⟩ := (accepts_documented faulty).2.1 undocumented
  rw [named] at refused
  cases refused
  exact ⟨⟨_, accepted, rfl, ((accepts_documented _).2.2 _ accepted).2⟩, _, named, rfl, blames⟩

end Config

end PseudoLint
