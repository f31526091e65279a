import PseudoLint.Text.Basic

/-! # Registries

A registry is a list of named values in which every name occurs once. It remembers the order in
which names first arrived: giving a present name a new value leaves it in its place.
-/

namespace PseudoLint

abbrev Registry (α : Type) := List (Text × α)

namespace Registry

variable {α : Type}

def get? (registry : Registry α) (name : Text) : Option α :=
  registry.lookup name

/-- Gives a name a value: in its place if the name is present, and at the end otherwise. -/
def put : Registry α → Text → α → Registry α
  | [], name, value => [(name, value)]
  | (other, old) :: rest, name, value =>
    if other == name then (other, value) :: rest else (other, old) :: put rest name value

/-- The registry of a list of pairs: a repeated name keeps its first place and its last value. -/
def ofPairs (pairs : List (Text × α)) : Registry α :=
  pairs.foldl (fun registry pair => registry.put pair.1 pair.2) []

def names (registry : Registry α) : List Text :=
  registry.map (·.1)

def values (registry : Registry α) : List α :=
  registry.map (·.2)

end Registry

end PseudoLint
