import PseudoLint.Report.Result

/-! # Tables of diagnostics and symbols

The rows in which an editor shows a result. Diagnostics are ordered by line, errors first on each
line, and otherwise as they were emitted. Symbol rows can also be made from a symbol table that
arrives as JSON and lacks some of its members.
-/

namespace PseudoLint

/-! ## Diagnostics -/

structure DiagnosticRow where
  index : Nat
  line : Int
  isError : Bool
  code : Text
  message : Text
deriving DecidableEq, Repr

namespace DiagnosticRow

/-- Whether one diagnostic may stand before another in a table. -/
def precedes (left right : Diagnostic) : Bool :=
  decide (left.line < right.line) ||
    (left.line == right.line && (left.isError || !right.isError))

/-- Rows for diagnostics in order, numbered from `index`. -/
def enumerate : (index : Nat) → List Diagnostic → List DiagnosticRow
  | _, [] => []
  | index, diagnostic :: rest =>
    ⟨index, diagnostic.line, diagnostic.isError, diagnostic.code, diagnostic.message⟩ ::
      enumerate (index + 1) rest

def ofDiagnostics (diagnostics : List Diagnostic) : List DiagnosticRow :=
  enumerate 1 (stableSort precedes diagnostics)

def typeLabel (row : DiagnosticRow) : Text :=
  if row.isError then "Error" else "Advertencia"

/-- The code shown for a diagnostic: a dash stands for none. -/
def codeLabel (row : DiagnosticRow) : Text :=
  if row.code.isEmpty then "-" else row.code

def toJson (row : DiagnosticRow) : Json :=
  .obj [("#", .int row.index), ("Línea", .int row.line), ("Tipo", .str row.typeLabel),
    ("Código", .str row.codeLabel), ("Mensaje", .str row.message)]

end DiagnosticRow

/-! ## Summaries -/

structure Summary where
  valid : Bool
  errors : Nat
  warnings : Nat
deriving DecidableEq, Repr

namespace Summary

def ofDiagnostics (diagnostics : List Diagnostic) : Summary :=
  ⟨Diagnostic.allValid diagnostics, (Diagnostic.errors diagnostics).length,
    (Diagnostic.warnings diagnostics).length⟩

def title (summary : Summary) : Text :=
  if summary.valid then "Syntax Check Passed!" else "Syntax Errors Found"

def toJson (summary : Summary) : Json :=
  .obj [("valid", .bool summary.valid), ("title", .str summary.title),
    ("errors", .int summary.errors), ("warnings", .int summary.warnings)]

end Summary

/-! ## Symbols -/

/-- A symbol in a table. The first three columns show what the table held. -/
structure SymbolRow where
  scope : Json
  name : Json
  kind : Json
  type : Text
  line : Text
deriving Repr

/-- Why a JSON value is no symbol table. -/
inductive SymbolRowFault where
  | notEntries (kind : Text)
  | notAnEntry (kind : Text)
deriving DecidableEq, Repr

def SymbolRowFault.message : SymbolRowFault → Text
  | .notEntries kind => "'" ++ kind ++ "' object is not iterable"
  | .notAnEntry kind => "'" ++ kind ++ "' object has no attribute 'get'"

namespace SymbolRow

def ofListings (listings : List Listing) : List SymbolRow :=
  listings.flatMap fun listing => listing.entries.map fun entry =>
    ⟨.str listing.scope, .str entry.name, .str entry.kind, entry.type, Numeral.ofInt entry.line⟩

/-- The row of an entry that arrives as JSON. -/
def ofEntry (scope : Json) (entry : Json) : Except SymbolRowFault SymbolRow :=
  match entry with
  | .obj _ =>
    let shown (key : Text) : Json := (entry.get? key).getD (.str [])
    .ok ⟨scope, shown "name", shown "kind", ((entry.get? "type").getD .null).display,
      (shown "line").display⟩
  | _ => .error (.notAnEntry entry.kindName)

/-- The items of a value that arrives in the place of entries: those of an array, the characters of
a string or the keys of an object. -/
def entriesOf : Json → Except SymbolRowFault (List Json)
  | .arr items => .ok items
  | .str text => .ok (text.map fun c => .str [c])
  | .obj members => .ok (members.map fun member => .str member.1)
  | value => .error (.notEntries value.kindName)

/-- The rows of a scope that arrives as JSON; a value that is no object has none. -/
def ofScope (scope : Json) : Except SymbolRowFault (List SymbolRow) :=
  match scope with
  | .obj _ => do
    let entries ← entriesOf ((scope.get? "entries").getD (.arr []))
    entries.mapM (ofEntry ((scope.get? "scope").getD (.str [])))
  | _ => .ok []

/-- The rows of a symbol table that arrives as JSON: an array of scopes or a single one. -/
def ofJson (table : Json) : Except SymbolRowFault (List SymbolRow) := do
  let scopes :=
    match table with
    | .arr scopes => scopes
    | scope => [scope]
  let rows ← scopes.mapM ofScope
  pure rows.flatten

def toJson (row : SymbolRow) : Json :=
  .obj [("scope", row.scope), ("name", row.name), ("kind", row.kind), ("type", .str row.type),
    ("line", .str row.line)]

end SymbolRow

end PseudoLint
