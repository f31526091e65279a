import PseudoLint.SymbolTable

/-! # Look-ups after changes of the symbol table

A registry answers for a name what was put under it last, and keeps its names in the order in which
they arrived. So the declared names of a table are known after every binding.
-/

namespace PseudoLint

namespace Registry

variable {α : Type}

theorem get?_cons (name key : Text) (value : α) (rest : Registry α) :
    get? ((name, value) :: rest) key = if key = name then some value else rest.get? key := by
  by_cases same : key = name
  · rw [if_pos same, same, get?, List.lookup_cons_self]
  · rw [if_neg same, get?, List.lookup_cons, beq_false_of_ne same]
    rfl

theorem get?_put (registry : Registry α) (name key : Text) (value : α) :
    (registry.put name value).get? key = if key = name then some value else registry.get? key := by
  induction registry with
  | nil => exact get?_cons name key value []
  | cons entry rest ih =>
    obtain ⟨other, old⟩ := entry
    by_cases present : other = name
    · rw [put, if_pos (beq_iff_eq.mpr present), get?_cons, get?_cons, present]
      split
      · rfl
      · rfl
    · rw [put, if_neg (fun same => present (beq_iff_eq.mp same)), get?_cons, get?_cons, ih]
      by_cases here : key = other
      · rw [if_pos here, if_pos here, if_neg (here ▸ present)]
      · rw [if_neg here, if_neg here]

@[simp] theorem names_nil : names ([] : Registry α) = [] := rfl

@[simp] theorem names_cons (name : Text) (value : α) (rest : Registry α) :
    names ((name, value) :: rest) = name :: rest.names := rfl

theorem isSome_get?_iff (registry : Registry α) (key : Text) :
    (registry.get? key).isSome = true ↔ key ∈ registry.names := by
  induction registry with
  | nil => simp [get?]
  | cons entry rest ih =>
    obtain ⟨name, value⟩ := entry
    rw [get?_cons, names_cons, List.mem_cons, ← ih]
    by_cases same : key = name
    · simp [same]
    · simp [same]

/-- A present name stays in its place and a new one goes to the end. -/
theorem names_put (registry : Registry α) (name : Text) (value : α) :
    (registry.put name value).names =
      if name ∈ registry.names then registry.names else registry.names ++ [name] := by
  induction registry with
  | nil => simp [put]
  | cons entry rest ih =>
    obtain ⟨other, old⟩ := entry
    by_cases present : other = name
    · simp [put, present]
    · rw [put, if_neg (fun same => present (beq_iff_eq.mp same)), names_cons, names_cons, ih]
      by_cases later : name ∈ names rest
      · rw [if_pos later, if_pos (List.mem_cons_of_mem _ later)]
      · have absent : name ∉ other :: names rest := by
          rw [List.mem_cons, not_or]
          exact ⟨Ne.symm present, later⟩
        rw [if_neg later, if_neg absent, List.cons_append]

theorem names_prefix_put (registry : Registry α) (name : Text) (value : α) :
    registry.names <+: (registry.put name value).names := by
  rw [names_put]
  split
  · exact List.prefix_refl _
  · exact List.prefix_append ..

theorem nodup_names_put {registry : Registry α} (distinct : registry.names.Nodup) (name : Text)
    (value : α) : (registry.put name value).names.Nodup := by
  rw [names_put]
  split
  · exact distinct
  · rename_i absent
    refine List.nodup_append.mpr ⟨distinct, List.pairwise_singleton .., ?_⟩
    rintro other present _ single rfl
    exact absent (List.mem_singleton.mp single ▸ present)

theorem eq_or_mem_of_mem_put {registry : Registry α} {name : Text} {value : α}
    {entry : Text × α} (member : entry ∈ registry.put name value) :
    entry = (name, value) ∨ entry ∈ registry := by
  induction registry with
  | nil => exact .inl (List.mem_singleton.mp member)
  | cons head rest ih =>
    obtain ⟨other, old⟩ := head
    simp only [put] at member
    split at member
    · rename_i same
      rcases List.mem_cons.mp member with rfl | later
      · exact .inl (Prod.ext (beq_iff_eq.mp same) rfl)
      · exact .inr (List.mem_cons_of_mem _ later)
    · rcases List.mem_cons.mp member with rfl | later
      · exact .inr List.mem_cons_self
      · exact (ih later).imp_right (List.mem_cons_of_mem _)

/-- Every value stands under the lower-case form of its own name. -/
def Keyed (nameOf : α → Text) (registry : Registry α) : Prop :=
  ∀ entry ∈ registry, entry.1 = (nameOf entry.2).lower

theorem Keyed.put {nameOf : α → Text} {registry : Registry α} (keyed : registry.Keyed nameOf)
    (value : α) : (registry.put (nameOf value).lower value).Keyed nameOf := by
  intro entry member
  rcases eq_or_mem_of_mem_put member with rfl | present
  · rfl
  · exact keyed entry present

/-- The names of a keyed registry are read off its values. -/
theorem Keyed.names_eq {nameOf : α → Text} {registry : Registry α}
    (keyed : registry.Keyed nameOf) :
    registry.names = registry.values.map fun value => (nameOf value).lower := by
  rw [names, values, List.map_map]
  exact List.map_congr_left keyed

end Registry

namespace SymbolTable

/-- The table declares exactly the names with the given lower-case forms. -/
def Declares (table : SymbolTable) (keys : List Text) : Prop :=
  ∀ name : Text, table.isDeclared name = true ↔ name.lower ∈ keys

theorem declares_nil : Declares {} [] := by
  intro name
  simp [isDeclared, resolve?, Registry.get?]

theorem Declares.bind {table : SymbolTable} {keys : List Text} (declares : table.Declares keys)
    (symbol : Symbol) : (table.bind symbol).Declares (symbol.name.lower :: keys) := by
  intro name
  have before := declares name
  simp only [isDeclared, resolve?] at before
  simp only [isDeclared, resolve?, SymbolTable.bind, Registry.get?_put, List.mem_cons]
  by_cases same : name.lower = symbol.name.lower
  · simp [same]
  · simp [same, before]

end SymbolTable

/-! ## Listings -/

/-- The listed symbols of one scope; none if the scope is not listed. -/
def Listing.entriesIn (scope : Text) (listings : List Listing) : List ListingEntry :=
  (listings.filter (·.scope == scope)).flatMap (·.entries)

theorem Listing.entriesIn_append (scope : Text) (first second : List Listing) :
    entriesIn scope (first ++ second) = entriesIn scope first ++ entriesIn scope second := by
  simp only [entriesIn, List.filter_append, List.flatMap_append]

theorem Listing.entriesIn_singleton (scope title : Text) (entries : List ListingEntry) :
    entriesIn scope [⟨title, entries⟩] = if title = scope then entries else [] := by
  by_cases same : title = scope <;> simp [entriesIn, same]

theorem Listing.entriesIn_optionalListing (scope title : Text) (entries : List ListingEntry) :
    entriesIn scope (SymbolTable.optionalListing title entries) =
      if title = scope then entries else [] := by
  cases entries with
  | nil => simp [SymbolTable.optionalListing, entriesIn]
  | cons entry rest => exact entriesIn_singleton scope title (entry :: rest)

namespace SymbolTable

/-- A listing shows each of its three scopes whole, and no other. -/
theorem entriesIn_listing (scope : Text) (table : SymbolTable) :
    Listing.entriesIn scope table.listing =
      (if "GLOBAL __global__" = scope then table.globals.values.map Symbol.entry else []) ++
        ((if "FUNCTIONS" = scope then table.functions.values.map Symbol.entry else []) ++
          (if "ARRAYS" = scope then table.arrays.values.map ArraySymbol.entry else [])) := by
  rw [listing, ← List.singleton_append, Listing.entriesIn_append, Listing.entriesIn_append,
    Listing.entriesIn_singleton, Listing.entriesIn_optionalListing,
    Listing.entriesIn_optionalListing]

end SymbolTable

end PseudoLint
