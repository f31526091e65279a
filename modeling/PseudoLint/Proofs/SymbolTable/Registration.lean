import PseudoLint.Proofs.SymbolTable

/-! # The history of a symbol table

A symbol table changes in four ways: a definition, which yields to a symbol already present, a
binding, which replaces it, and the record of a function or of an array. What holds after every such
registration holds after any sequence of them: values stand under their own names, names occur once
and keep the order of their arrival, exactly the names that were registered are declared, and every
symbol of the table was registered.
-/

namespace PseudoLint

/-- One change of a symbol table. -/
inductive Registration where
  | definition (symbol : Symbol)
  | binding (symbol : Symbol)
  | function (symbol : Symbol)
  | array (array : ArraySymbol)
deriving DecidableEq, Repr

namespace Registration

/-- The symbol that a registration offers to the global scope. -/
def global? : Registration → Option Symbol
  | .definition symbol | .binding symbol => some symbol
  | .function _ | .array _ => none

/-- The function that a registration records. -/
def function? : Registration → Option Symbol
  | .function symbol => some symbol
  | .definition _ | .binding _ | .array _ => none

/-- The array that a registration records. -/
def array? : Registration → Option ArraySymbol
  | .array bounded => some bounded
  | .definition _ | .binding _ | .function _ => none

/-- The line of what is registered. -/
def line : Registration → Int
  | .definition symbol | .binding symbol | .function symbol => symbol.line
  | .array bounded => bounded.line

theorem line_of_global? {registration : Registration} {symbol : Symbol}
    (offered : registration.global? = some symbol) : symbol.line = registration.line := by
  cases registration with
  | definition | binding =>
    cases offered
    rfl
  | function | array => cases offered

end Registration

namespace SymbolTable

/-- The table after one registration. -/
def register (table : SymbolTable) : Registration → SymbolTable
  | .definition symbol => (table.define symbol).toOption.getD table
  | .binding symbol => table.bind symbol
  | .function symbol => table.declareFunction symbol
  | .array array => table.declareArray array

/-- The table after some registrations in order. -/
def registerAll (table : SymbolTable) (registrations : List Registration) : SymbolTable :=
  registrations.foldl register table

@[simp] theorem registerAll_nil (table : SymbolTable) : table.registerAll [] = table := rfl

@[simp] theorem registerAll_cons (table : SymbolTable) (registration : Registration)
    (rest : List Registration) :
    table.registerAll (registration :: rest) = (table.register registration).registerAll rest := rfl

theorem registerAll_append (table : SymbolTable) (first second : List Registration) :
    table.registerAll (first ++ second) = (table.registerAll first).registerAll second :=
  List.foldl_append

theorem isDeclared_iff {table : SymbolTable} {name : Text} :
    table.isDeclared name = true ↔ name.lower ∈ table.globals.names :=
  Registry.isSome_get?_iff table.globals name.lower

/-- A definition yields to a symbol of the same name. -/
theorem register_definition (table : SymbolTable) (symbol : Symbol) :
    table.register (.definition symbol) =
      if table.isDeclared symbol.name then table else table.bind symbol := by
  cases found : table.resolve? symbol.name with
  | none => simp [register, define, isDeclared, found, Except.toOption]
  | some present => simp [register, define, isDeclared, found, Except.toOption]

/-! ## Keys -/

/-- In every scope the symbols stand under their own names. -/
structure Keyed (table : SymbolTable) : Prop where
  globals : table.globals.Keyed Symbol.name
  functions : table.functions.Keyed Symbol.name
  arrays : table.arrays.Keyed ArraySymbol.name

theorem keyed_empty : Keyed {} := by
  constructor
  all_goals
    intro entry member
    cases member

theorem Keyed.bind {table : SymbolTable} (keyed : table.Keyed) (symbol : Symbol) :
    (table.bind symbol).Keyed :=
  ⟨keyed.globals.put symbol, keyed.functions, keyed.arrays⟩

theorem Keyed.register {table : SymbolTable} (keyed : table.Keyed) (registration : Registration) :
    (table.register registration).Keyed := by
  cases registration with
  | definition symbol =>
    rw [register_definition]
    split
    · exact keyed
    · exact keyed.bind symbol
  | binding symbol => exact keyed.bind symbol
  | function symbol => exact ⟨keyed.globals, keyed.functions.put symbol, keyed.arrays⟩
  | array array => exact ⟨keyed.globals, keyed.functions, keyed.arrays.put array⟩

theorem Keyed.registerAll {table : SymbolTable} (keyed : table.Keyed)
    (registrations : List Registration) : (table.registerAll registrations).Keyed := by
  induction registrations generalizing table with
  | nil => exact keyed
  | cons registration rest ih => exact ih (keyed.register registration)

/-! ## Order -/

/-- In every scope the names of the old table come first, in their order. -/
structure Extends (old new : SymbolTable) : Prop where
  globals : old.globals.names <+: new.globals.names
  functions : old.functions.names <+: new.functions.names
  arrays : old.arrays.names <+: new.arrays.names

theorem Extends.refl (table : SymbolTable) : Extends table table :=
  ⟨List.prefix_refl _, List.prefix_refl _, List.prefix_refl _⟩

theorem Extends.trans {first middle last : SymbolTable} (left : Extends first middle)
    (right : Extends middle last) : Extends first last :=
  ⟨left.globals.trans right.globals, left.functions.trans right.functions,
    left.arrays.trans right.arrays⟩

theorem extends_bind (table : SymbolTable) (symbol : Symbol) : Extends table (table.bind symbol) :=
  ⟨Registry.names_prefix_put .., List.prefix_refl _, List.prefix_refl _⟩

theorem extends_register (table : SymbolTable) (registration : Registration) :
    Extends table (table.register registration) := by
  cases registration with
  | definition symbol =>
    rw [register_definition]
    split
    · exact .refl table
    · exact extends_bind table symbol
  | binding symbol => exact extends_bind table symbol
  | function symbol =>
    exact ⟨List.prefix_refl _, Registry.names_prefix_put .., List.prefix_refl _⟩
  | array array => exact ⟨List.prefix_refl _, List.prefix_refl _, Registry.names_prefix_put ..⟩

theorem extends_registerAll (table : SymbolTable) (registrations : List Registration) :
    Extends table (table.registerAll registrations) := by
  induction registrations generalizing table with
  | nil => exact .refl table
  | cons registration rest ih => exact (extends_register table registration).trans (ih _)

/-! ## What is declared -/

theorem isDeclared_bind_iff {table : SymbolTable} {symbol : Symbol} {name : Text} :
    (table.bind symbol).isDeclared name = true ↔
      table.isDeclared name = true ∨ symbol.name.lower = name.lower := by
  simp only [isDeclared, resolve?, bind, Registry.get?_put]
  by_cases same : name.lower = symbol.name.lower
  · simp [same]
  · simp [same, Ne.symm same]

/-- A registration declares the name that it offers to the global scope, and no other. -/
theorem isDeclared_register_iff {table : SymbolTable} {registration : Registration} {name : Text} :
    (table.register registration).isDeclared name = true ↔
      table.isDeclared name = true ∨
        ∃ symbol, registration.global? = some symbol ∧ symbol.name.lower = name.lower := by
  cases registration with
  | definition symbol =>
    simp only [register_definition, Registration.global?, Option.some.injEq, exists_eq_left']
    split
    · rename_i present
      -- A name that differs from a present one only in case is present too.
      have covered : symbol.name.lower = name.lower → table.isDeclared name = true := by
        intro same
        rw [isDeclared, resolve?, ← same]
        exact present
      exact ⟨.inl, fun declared => declared.elim id covered⟩
    · exact isDeclared_bind_iff
  | binding symbol =>
    simp only [Registration.global?, Option.some.injEq, exists_eq_left']
    exact isDeclared_bind_iff
  | function symbol =>
    simp only [Registration.global?, reduceCtorEq, false_and, exists_false, or_false]
    exact Iff.rfl
  | array array =>
    simp only [Registration.global?, reduceCtorEq, false_and, exists_false, or_false]
    exact Iff.rfl

theorem isDeclared_registerAll_iff {table : SymbolTable} {registrations : List Registration}
    {name : Text} :
    (table.registerAll registrations).isDeclared name = true ↔
      table.isDeclared name = true ∨ ∃ symbol ∈ registrations.filterMap Registration.global?,
        symbol.name.lower = name.lower := by
  induction registrations generalizing table with
  | nil => simp
  | cons registration rest ih =>
    rw [registerAll_cons, ih, isDeclared_register_iff]
    cases offered : registration.global? with
    | none => simp [List.filterMap_cons_none offered]
    | some symbol => simp [List.filterMap_cons_some offered, or_assoc]

/-! ## Where symbols come from -/

/-- What one registration may add to a part of the table, some registrations add only if one of them
does. -/
theorem origin_registerAll {α : Type} (part : SymbolTable → List α)
    (offers : Registration → α → Prop)
    (step : ∀ (table : SymbolTable) (registration : Registration) (entry : α),
      entry ∈ part (table.register registration) →
        entry ∈ part table ∨ offers registration entry)
    {table : SymbolTable} {registrations : List Registration} {entry : α}
    (member : entry ∈ part (table.registerAll registrations)) :
    entry ∈ part table ∨ ∃ registration ∈ registrations, offers registration entry := by
  induction registrations generalizing table with
  | nil => exact .inl member
  | cons registration rest ih =>
    rcases ih member with present | ⟨other, later, offered⟩
    · rcases step table registration entry present with before | offered
      · exact .inl before
      · exact .inr ⟨registration, List.mem_cons_self, offered⟩
    · exact .inr ⟨other, List.mem_cons_of_mem _ later, offered⟩

/-- Every symbol of the global scope was there before or was offered by a registration. -/
theorem mem_globals_register {table : SymbolTable} {registration : Registration}
    {entry : Text × Symbol} (member : entry ∈ (table.register registration).globals) :
    entry ∈ table.globals ∨ registration.global? = some entry.2 := by
  cases registration with
  | definition symbol =>
    rw [register_definition] at member
    split at member
    · exact .inl member
    · rcases Registry.eq_or_mem_of_mem_put member with rfl | present
      · exact .inr rfl
      · exact .inl present
  | binding symbol =>
    rcases Registry.eq_or_mem_of_mem_put member with rfl | present
    · exact .inr rfl
    · exact .inl present
  | function symbol => exact .inl member
  | array array => exact .inl member

theorem mem_globals_registerAll {table : SymbolTable} {registrations : List Registration}
    {entry : Text × Symbol} (member : entry ∈ (table.registerAll registrations).globals) :
    entry ∈ table.globals ∨ entry.2 ∈ registrations.filterMap Registration.global? := by
  rw [List.mem_filterMap]
  exact origin_registerAll globals (fun registration entry => registration.global? = some entry.2)
    (fun _ _ _ => mem_globals_register) member

/-! ## Functions and arrays -/

/-- What a registration offers to a part of the table takes the place of the value of the same name,
and a registration that offers nothing leaves the part as it is. -/
structure Overwrites {α : Type} (part : SymbolTable → Registry α)
    (offer? : Registration → Option α) (nameOf : α → Text) : Prop where
  kept : ∀ {event : Registration}, offer? event = none →
    ∀ table : SymbolTable, part (table.register event) = part table
  put : ∀ {event : Registration} {value : α}, offer? event = some value →
    ∀ table : SymbolTable, part (table.register event) = (part table).put (nameOf value).lower value

/-- A definition leaves alone what a binding leaves alone. -/
theorem part_register_definition {β : Type} {part : SymbolTable → β}
    (apart : ∀ (table : SymbolTable) symbol, part (table.bind symbol) = part table)
    (table : SymbolTable) (symbol : Symbol) :
    part (table.register (.definition symbol)) = part table := by
  rw [register_definition]
  split
  · rfl
  · exact apart table symbol

theorem overwrites_functions : Overwrites functions Registration.function? Symbol.name where
  kept := by
    intro event nothing table
    cases event with
    | definition symbol => exact part_register_definition (fun _ _ => rfl) table symbol
    | binding | array => rfl
    | function => cases nothing
  put := by
    intro event value offered table
    cases event with
    | definition | binding | array => cases offered
    | function =>
      cases offered
      rfl

theorem overwrites_arrays : Overwrites arrays Registration.array? ArraySymbol.name where
  kept := by
    intro event nothing table
    cases event with
    | definition symbol => exact part_register_definition (fun _ _ => rfl) table symbol
    | binding | function => rfl
    | array => cases nothing
  put := by
    intro event value offered table
    cases event with
    | definition | binding | function => cases offered
    | array =>
      cases offered
      rfl

/-- Only what a registration offers is added. -/
theorem Overwrites.mem_register {α : Type} {part : SymbolTable → Registry α}
    {offer? : Registration → Option α} {nameOf : α → Text}
    (overwrites : Overwrites part offer? nameOf) {table : SymbolTable} {event : Registration}
    {entry : Text × α} (member : entry ∈ part (table.register event)) :
    entry ∈ part table ∨ offer? event = some entry.2 := by
  cases offered : offer? event with
  | none =>
    rw [overwrites.kept offered] at member
    exact .inl member
  | some value =>
    rw [overwrites.put offered] at member
    rcases Registry.eq_or_mem_of_mem_put member with rfl | present
    · exact .inr rfl
    · exact .inl present

/-! ## Names occur once -/

/-- In every scope each name occurs once. -/
structure Distinct (table : SymbolTable) : Prop where
  globals : table.globals.names.Nodup
  functions : table.functions.names.Nodup
  arrays : table.arrays.names.Nodup

theorem distinct_empty : Distinct {} :=
  ⟨.nil, .nil, .nil⟩

theorem Distinct.bind {table : SymbolTable} (distinct : table.Distinct) (symbol : Symbol) :
    (table.bind symbol).Distinct :=
  ⟨Registry.nodup_names_put distinct.globals .., distinct.functions, distinct.arrays⟩

theorem Distinct.register {table : SymbolTable} (distinct : table.Distinct)
    (registration : Registration) : (table.register registration).Distinct := by
  cases registration with
  | definition symbol =>
    rw [register_definition]
    split
    · exact distinct
    · exact distinct.bind symbol
  | binding symbol => exact distinct.bind symbol
  | function symbol =>
    exact ⟨distinct.globals, Registry.nodup_names_put distinct.functions .., distinct.arrays⟩
  | array array =>
    exact ⟨distinct.globals, distinct.functions, Registry.nodup_names_put distinct.arrays ..⟩

theorem Distinct.registerAll {table : SymbolTable} (distinct : table.Distinct)
    (registrations : List Registration) : (table.registerAll registrations).Distinct := by
  induction registrations generalizing table with
  | nil => exact distinct
  | cons registration rest ih => exact ih (distinct.register registration)

end SymbolTable

end PseudoLint
