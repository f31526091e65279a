import PseudoLint.Registry
import PseudoLint.Symbol
import PseudoLint.Text.CaseMap

/-! # The symbol table

Variables, constants and parameters share one global scope; functions and arrays have registries
of their own. Names are told apart only up to case: each registry is keyed by the lower-case form
of the name. Declaring a variable never replaces a symbol, binding a constant or a parameter always
does, and the last declaration of an array or a function counts.
-/

namespace PseudoLint

/-- The symbols known at some point of a source. -/
structure SymbolTable where
  globals : Registry Symbol := []
  functions : Registry Symbol := []
  arrays : Registry ArraySymbol := []
deriving DecidableEq, Repr

structure ListingEntry where
  name : Text
  kind : Text
  type : Text
  line : Int
deriving DecidableEq, Repr

structure Listing where
  scope : Text
  entries : List ListingEntry
deriving DecidableEq, Repr

def Symbol.entry (symbol : Symbol) : ListingEntry :=
  ⟨symbol.name, symbol.kind.label, symbol.type, symbol.line⟩

/-- An array as it is listed: its type is its range. -/
def ArraySymbol.entry (array : ArraySymbol) : ListingEntry :=
  ⟨array.name, "array", array.rangeText, array.line⟩

namespace SymbolTable

/-- The symbol of a name in the global scope. -/
def resolve? (table : SymbolTable) (name : Text) : Option Symbol :=
  table.globals.get? name.lower

def isDeclared (table : SymbolTable) (name : Text) : Bool :=
  (table.resolve? name).isSome

def array? (table : SymbolTable) (name : Text) : Option ArraySymbol :=
  table.arrays.get? name.lower

def function? (table : SymbolTable) (name : Text) : Option Symbol :=
  table.functions.get? name.lower

def isFunction (table : SymbolTable) (name : Text) : Bool :=
  (table.function? name).isSome

def isKnown (table : SymbolTable) (name : Text) : Bool :=
  table.isDeclared name || table.isFunction name || (table.array? name).isSome

/-- Puts a symbol into the global scope, in place of one of the same name. -/
def bind (table : SymbolTable) (symbol : Symbol) : SymbolTable :=
  { table with globals := table.globals.put symbol.name.lower symbol }

/-- Puts a symbol into the global scope, or answers the symbol that already has its name. -/
def define (table : SymbolTable) (symbol : Symbol) : Except Symbol SymbolTable :=
  match table.resolve? symbol.name with
  | some present => .error present
  | none => .ok (table.bind symbol)

/-- Records a function, in place of one of the same name. -/
def declareFunction (table : SymbolTable) (function : Symbol) : SymbolTable :=
  { table with functions := table.functions.put function.name.lower function }

/-- Records an array, in place of one of the same name. -/
def declareArray (table : SymbolTable) (array : ArraySymbol) : SymbolTable :=
  { table with arrays := table.arrays.put array.name.lower array }

/-- The listing of a scope that is shown only if it has entries. -/
def optionalListing (scope : Text) (entries : List ListingEntry) : List Listing :=
  if entries.isEmpty then [] else [⟨scope, entries⟩]

/-- The table as it is listed: the global scope always, functions and arrays if there are any. -/
def listing (table : SymbolTable) : List Listing :=
  ⟨"GLOBAL __global__", table.globals.values.map Symbol.entry⟩ ::
    (optionalListing "FUNCTIONS" (table.functions.values.map Symbol.entry) ++
      optionalListing "ARRAYS" (table.arrays.values.map ArraySymbol.entry))

end SymbolTable

/-- The wording of the refusal to define a name twice. -/
def alreadyDefinedMessage (name : Text) : Text :=
  "Symbol '" ++ name ++ "' already defined in this scope"

end PseudoLint
