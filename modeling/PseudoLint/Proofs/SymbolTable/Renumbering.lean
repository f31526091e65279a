import PseudoLint.Proofs.SymbolTable.Registration

/-! # Moving the lines of symbols

Symbols carry the lines of their declarations, and a symbol table looks at names and never at lines.
So moving all lines by some map commutes with every look-up, with every registration and with the
listing of the table.
-/

namespace PseudoLint

/-- A parameter on another line. -/
def Parameter.renumber (move : Int → Int) (parameter : Parameter) : Parameter :=
  { parameter with line := move parameter.line }

/-- What a symbol stands for, with the parameters on other lines. -/
def SymbolKind.renumber (move : Int → Int) : SymbolKind → SymbolKind
  | .function parameters => .function (parameters.map (Parameter.renumber move))
  | kind => kind

/-- A symbol on another line. -/
def Symbol.renumber (move : Int → Int) (symbol : Symbol) : Symbol :=
  { symbol with line := move symbol.line, kind := symbol.kind.renumber move }

/-- An array on another line. -/
def ArraySymbol.renumber (move : Int → Int) (array : ArraySymbol) : ArraySymbol :=
  { array with line := move array.line }

/-- A registration on another line. -/
def Registration.renumber (move : Int → Int) : Registration → Registration
  | .definition symbol => .definition (symbol.renumber move)
  | .binding symbol => .binding (symbol.renumber move)
  | .function symbol => .function (symbol.renumber move)
  | .array bounded => .array (bounded.renumber move)

/-- A listed symbol on another line. -/
def ListingEntry.renumber (move : Int → Int) (entry : ListingEntry) : ListingEntry :=
  { entry with line := move entry.line }

/-- A listing with its symbols on other lines. -/
def Listing.renumber (move : Int → Int) (listing : Listing) : Listing :=
  { listing with entries := listing.entries.map (ListingEntry.renumber move) }

namespace Registry

variable {α β : Type}

/-- The same names with other values. -/
def mapValues (change : α → β) (registry : Registry α) : Registry β :=
  registry.map fun entry => (entry.1, change entry.2)

theorem get?_mapValues (change : α → β) (registry : Registry α) (key : Text) :
    (registry.mapValues change).get? key = (registry.get? key).map change := by
  induction registry with
  | nil => rfl
  | cons entry rest ih =>
    obtain ⟨name, value⟩ := entry
    rw [get?_cons, mapValues, List.map_cons, get?_cons, ← mapValues, ih]
    split
    · rfl
    · rfl

theorem put_mapValues (change : α → β) (registry : Registry α) (name : Text) (value : α) :
    (registry.mapValues change).put name (change value) =
      (registry.put name value).mapValues change := by
  induction registry with
  | nil => rfl
  | cons entry rest ih =>
    obtain ⟨other, old⟩ := entry
    simp only [mapValues, List.map_cons, put] at ih ⊢
    split
    · rfl
    · rw [List.map_cons, ih]

theorem values_mapValues (change : α → β) (registry : Registry α) :
    (registry.mapValues change).values = registry.values.map change := by
  simp only [values, mapValues, List.map_map]
  rfl

end Registry

namespace SymbolTable

/-- A table with its symbols on other lines. -/
def renumber (move : Int → Int) (table : SymbolTable) : SymbolTable :=
  ⟨table.globals.mapValues (Symbol.renumber move), table.functions.mapValues (Symbol.renumber move),
    table.arrays.mapValues (ArraySymbol.renumber move)⟩

variable (move : Int → Int) (table : SymbolTable)

@[simp] theorem resolve?_renumber (name : Text) :
    (table.renumber move).resolve? name = (table.resolve? name).map (Symbol.renumber move) :=
  Registry.get?_mapValues ..

@[simp] theorem array?_renumber (name : Text) :
    (table.renumber move).array? name = (table.array? name).map (ArraySymbol.renumber move) :=
  Registry.get?_mapValues ..

@[simp] theorem isDeclared_renumber (name : Text) :
    (table.renumber move).isDeclared name = table.isDeclared name := by
  rw [isDeclared, resolve?_renumber, Option.isSome_map]
  rfl

@[simp] theorem isFunction_renumber (name : Text) :
    (table.renumber move).isFunction name = table.isFunction name := by
  rw [isFunction, function?, renumber, Registry.get?_mapValues, Option.isSome_map]
  rfl

@[simp] theorem isKnown_renumber (name : Text) :
    (table.renumber move).isKnown name = table.isKnown name := by
  rw [isKnown, isDeclared_renumber, isFunction_renumber, array?_renumber, Option.isSome_map]
  rfl

theorem bind_renumber (symbol : Symbol) :
    (table.renumber move).bind (symbol.renumber move) = (table.bind symbol).renumber move := by
  simp only [bind, renumber, ← Registry.put_mapValues]
  rfl

theorem register_renumber (registration : Registration) :
    (table.renumber move).register (registration.renumber move) =
      (table.register registration).renumber move := by
  cases registration with
  | definition symbol =>
    have same : (table.renumber move).isDeclared (symbol.renumber move).name =
        table.isDeclared symbol.name :=
      isDeclared_renumber ..
    simp only [Registration.renumber, register_definition, bind_renumber, same]
    split
    · rfl
    · rfl
  | binding symbol => exact bind_renumber ..
  | function symbol =>
    simp only [Registration.renumber, register, declareFunction, renumber,
      ← Registry.put_mapValues]
    rfl
  | array array =>
    simp only [Registration.renumber, register, declareArray, renumber, ← Registry.put_mapValues]
    rfl

theorem registerAll_renumber (registrations : List Registration) :
    (table.renumber move).registerAll (registrations.map (Registration.renumber move)) =
      (table.registerAll registrations).renumber move := by
  induction registrations generalizing table with
  | nil => rfl
  | cons registration rest ih =>
    rw [List.map_cons, registerAll_cons, registerAll_cons, register_renumber, ih]

theorem optionalListing_renumber (scope : Text) (entries : List ListingEntry) :
    optionalListing scope (entries.map (ListingEntry.renumber move)) =
      (optionalListing scope entries).map (Listing.renumber move) := by
  cases entries with
  | nil => rfl
  | cons entry rest => rfl

theorem entry_renumber (symbol : Symbol) :
    (symbol.renumber move).entry = symbol.entry.renumber move := by
  obtain ⟨name, type, line, kind⟩ := symbol
  cases kind <;> rfl

/-- In the listing, the lines of the symbols move and nothing else. -/
theorem listing_renumber :
    (table.renumber move).listing = table.listing.map (Listing.renumber move) := by
  have symbols : ∀ registry : Registry Symbol,
      (registry.mapValues (Symbol.renumber move)).values.map Symbol.entry =
        (registry.values.map Symbol.entry).map (ListingEntry.renumber move) := by
    intro registry
    rw [Registry.values_mapValues, List.map_map, List.map_map]
    exact List.map_congr_left fun symbol _ => entry_renumber move symbol
  have arrays : (table.arrays.mapValues (ArraySymbol.renumber move)).values.map ArraySymbol.entry =
      (table.arrays.values.map ArraySymbol.entry).map (ListingEntry.renumber move) := by
    rw [Registry.values_mapValues, List.map_map, List.map_map]
    rfl
  simp only [listing, renumber, symbols, arrays, optionalListing_renumber, List.map_cons,
    List.map_append]
  rfl

end SymbolTable

end PseudoLint
