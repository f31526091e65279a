import PseudoLint.Proofs.SymbolTable.Registration

/-! # What is in force

The global scope keeps one symbol for each name, and which one it is can be read off the history: a
binding replaces what was there, so the last binding counts, and a definition yields, so without a
binding the first definition counts. A binding may come after a definition and a definition after a
binding; neither changes this rule. Of the arrays of one name the last one counts, and likewise of
the functions.
-/

namespace PseudoLint

/-- The symbol of a definition. -/
def Registration.definition? : Registration → Option Symbol
  | .definition symbol => some symbol
  | .binding _ | .function _ | .array _ => none

/-- The symbol of a binding. -/
def Registration.binding? : Registration → Option Symbol
  | .binding symbol => some symbol
  | .definition _ | .function _ | .array _ => none

/-- Whether a symbol answers to a lower-case name. -/
def Symbol.hasKey (key : Text) (symbol : Symbol) : Bool :=
  symbol.name.lower == key

/-- The symbol of the last binding under a lower-case name. -/
def lastBinding (key : Text) (history : List Registration) : Option Symbol :=
  (history.filterMap Registration.binding?).reverse.find? (·.hasKey key)

/-- The symbol of the first definition under a lower-case name. -/
def firstDefinition (key : Text) (history : List Registration) : Option Symbol :=
  (history.filterMap Registration.definition?).find? (·.hasKey key)

/-- The symbol in force under a lower-case name: that of the last binding or, if there is none, that
of the first definition. -/
def inForce (key : Text) (history : List Registration) : Option Symbol :=
  (lastBinding key history).or (firstDefinition key history)

/-- A symbol in force was registered under the name. -/
theorem mem_of_inForce {key : Text} {history : List Registration} {present : Symbol}
    (found : inForce key history = some present) :
    present ∈ history.filterMap Registration.global? ∧ present.hasKey key = true := by
  rcases Option.or_eq_some_iff.mp found with bound | ⟨-, defined⟩
  · obtain ⟨event, member, offered⟩ :=
      List.mem_filterMap.mp (List.mem_reverse.mp (List.mem_of_find?_eq_some bound))
    refine ⟨List.mem_filterMap.mpr ⟨event, member, ?_⟩, List.find?_some bound⟩
    cases event with
    | binding symbol => exact offered
    | definition | function | array => cases offered
  · obtain ⟨event, member, offered⟩ := List.mem_filterMap.mp (List.mem_of_find?_eq_some defined)
    refine ⟨List.mem_filterMap.mpr ⟨event, member, ?_⟩, List.find?_some defined⟩
    cases event with
    | definition symbol => exact offered
    | binding | function | array => cases offered

/-! ## One more registration in front -/

section

variable (key : Text) (symbol : Symbol) (later : List Registration)

theorem lastBinding_cons_binding :
    lastBinding key (.binding symbol :: later) =
      (lastBinding key later).or (if symbol.hasKey key then some symbol else none) := by
  have offered : (Registration.binding symbol).binding? = some symbol := rfl
  rw [lastBinding, List.filterMap_cons_some offered, List.reverse_cons, List.find?_append,
    List.find?_singleton, lastBinding]

theorem firstDefinition_cons_definition :
    firstDefinition key (.definition symbol :: later) =
      (if symbol.hasKey key then some symbol else none).or (firstDefinition key later) := by
  have offered : (Registration.definition symbol).definition? = some symbol := rfl
  rw [firstDefinition, List.filterMap_cons_some offered, List.find?_cons, firstDefinition]
  cases symbol.hasKey key <;> rfl

end

namespace SymbolTable

theorem resolve?_bind (table : SymbolTable) (symbol : Symbol) (name : Text) :
    (table.bind symbol).resolve? name =
      (if symbol.hasKey name.lower then some symbol else none).or (table.resolve? name) := by
  rw [resolve?, bind, Registry.get?_put, Symbol.hasKey]
  by_cases same : name.lower = symbol.name.lower
  · rw [if_pos same, if_pos (beq_iff_eq.mpr same.symm), Option.some_or]
  · rw [if_neg same, if_neg (fun equal => same (beq_iff_eq.mp equal).symm), Option.none_or]
    rfl

theorem resolve?_register_definition (table : SymbolTable) (symbol : Symbol) (name : Text) :
    (table.register (.definition symbol)).resolve? name =
      (table.resolve? name).or (if symbol.hasKey name.lower then some symbol else none) := by
  rw [register_definition]
  by_cases same : symbol.hasKey name.lower = true
  · -- Under the same key the look-ups of both names agree.
    have sameKey : symbol.name.lower = name.lower := beq_iff_eq.mp same
    have lookup : table.resolve? symbol.name = table.resolve? name := by
      rw [resolve?, sameKey, resolve?]
    cases found : table.resolve? name with
    | none => simp [isDeclared, lookup, found, resolve?_bind, same]
    | some present => simp [isDeclared, lookup, found]
  · split
    · simp
    · simp [resolve?_bind, same]

/-- The table answers for a name what is in force after its history. -/
theorem resolve?_registerAll (table : SymbolTable) (history : List Registration) (name : Text) :
    (table.registerAll history).resolve? name =
      (lastBinding name.lower history).or
        ((table.resolve? name).or (firstDefinition name.lower history)) := by
  induction history generalizing table with
  | nil =>
    rw [registerAll_nil, lastBinding, firstDefinition]
    exact (Option.or_none).symm
  | cons event later ih =>
    rw [registerAll_cons, ih]
    cases event with
    | definition symbol =>
      rw [resolve?_register_definition, firstDefinition_cons_definition, Option.or_assoc]
      rfl
    | binding symbol =>
      change (lastBinding name.lower later).or (((table.bind symbol).resolve? name).or _) = _
      rw [resolve?_bind, lastBinding_cons_binding, Option.or_assoc, Option.or_assoc]
      rfl
    | function symbol => rfl
    | array array => rfl

theorem resolve?_eq_inForce (history : List Registration) (name : Text) :
    (registerAll {} history).resolve? name = inForce name.lower history :=
  resolve?_registerAll {} history name

end SymbolTable

/-! ## Arrays and functions -/

/-- Whether an array answers to a lower-case name. -/
def ArraySymbol.hasKey (key : Text) (array : ArraySymbol) : Bool :=
  array.name.lower == key

/-- The last array under a lower-case name. -/
def lastArray (key : Text) (history : List Registration) : Option ArraySymbol :=
  (history.filterMap Registration.array?).reverse.find? (·.hasKey key)

namespace SymbolTable

/-- Of several offers under one name the last one counts. -/
theorem Overwrites.get?_registerAll {α : Type} {part : SymbolTable → Registry α}
    {offer? : Registration → Option α} {nameOf : α → Text}
    (overwrites : Overwrites part offer? nameOf) (table : SymbolTable)
    (history : List Registration) (key : Text) :
    (part (table.registerAll history)).get? key =
      ((history.filterMap offer?).reverse.find? fun value => (nameOf value).lower == key).or
        ((part table).get? key) := by
  induction history generalizing table with
  | nil => rfl
  | cons event later ih =>
    rw [registerAll_cons, ih]
    cases offered : offer? event with
    | none => rw [overwrites.kept offered, List.filterMap_cons_none offered]
    | some value =>
      rw [overwrites.put offered, List.filterMap_cons_some offered, List.reverse_cons,
        List.find?_append, List.find?_singleton, Option.or_assoc, Registry.get?_put]
      by_cases same : key = (nameOf value).lower
      · rw [if_pos same, if_pos (beq_iff_eq.mpr same.symm), Option.some_or]
      · rw [if_neg same, if_neg (fun equal => same (beq_iff_eq.mp equal).symm), Option.none_or]

/-- Of several arrays under one name the last one counts, and nothing else touches the arrays. -/
theorem array?_registerAll (table : SymbolTable) (history : List Registration) (name : Text) :
    (table.registerAll history).array? name =
      (lastArray name.lower history).or (table.array? name) :=
  overwrites_arrays.get?_registerAll table history name.lower

end SymbolTable

end PseudoLint
