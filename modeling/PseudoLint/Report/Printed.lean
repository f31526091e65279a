import PseudoLint.Report.Result

/-! # The printed report

A report lists the diagnostics by line, in order of emission within a line, and ends with the
verdict. It may be preceded by the symbols.
-/

namespace PseudoLint.Report

def symbolLine (scope name kind type line : Text) : Text :=
  scope ++ ": " ++ name ++ " (" ++ kind ++ ") : " ++ type ++ "  [línea " ++ line ++ "]"

def symbolLines (listings : List Listing) : List Text :=
  listings.flatMap fun listing => listing.entries.map fun entry =>
    symbolLine listing.scope entry.name entry.kind entry.type (Numeral.ofInt entry.line)

/-- The member of an object, or its key if the object has none. -/
def member (key : Text) (value : Json) : Except Text Json :=
  match value.get? key with
  | some member => .ok member
  | none => .error key

/-- The line of a symbol in a table that arrives as JSON. A missing member is answered by its
key. -/
def looseSymbolLine (scope entry : Json) : Except Text Text := do
  let title ← member "scope" scope
  let name ← member "name" entry
  let kind ← member "kind" entry
  let type ← member "type" entry
  let line ← member "line" entry
  pure (symbolLine title.display name.display kind.display type.display line.display)

def looseScopeLines (scope : Json) : Except Text (List Text) := do
  match ← member "entries" scope with
  | .arr entries => entries.mapM (looseSymbolLine scope)
  | _ => pure []

def looseSymbolLines : Json → Except Text (List Text)
  | .arr scopes => do
    let lines ← scopes.mapM looseScopeLines
    pure lines.flatten
  | _ => .ok []

def symbolSection (lines : List Text) : List Text :=
  "=== Tabla de Símbolos ===".toList :: lines ++ [[]]

def diagnosticLine (diagnostic : Diagnostic) : Text :=
  "línea " ++ Numeral.ofInt diagnostic.line ++ " [" ++ diagnostic.severity.label ++ "] " ++
    diagnostic.code ++ ": " ++ diagnostic.message

/-- Diagnostics by line, in order of emission within a line. -/
def byLine (diagnostics : List Diagnostic) : List Diagnostic :=
  stableSort (fun left right => decide (left.line ≤ right.line)) diagnostics

/-- The verdict on a source with diagnostics. -/
def verdictLine (diagnostics : List Diagnostic) : Text :=
  let warnings := Numeral.ofNat (Diagnostic.warnings diagnostics).length
  if Diagnostic.allValid diagnostics then
    "✔ Programa válido (" ++ warnings ++ " advertencias)"
  else
    "✘ " ++ Numeral.ofNat (Diagnostic.errors diagnostics).length ++ " errores, " ++ warnings ++
      " advertencias"

def diagnosticSection (diagnostics : List Diagnostic) : List Text :=
  "=== Diagnósticos ===".toList ::
    if diagnostics.isEmpty then ["No se encontraron errores ✅".toList]
    else (byLine diagnostics).map diagnosticLine ++ [[], verdictLine diagnostics]

/-- Lines as printed text. -/
def printed (lines : List Text) : Text :=
  lines.flatMap (· ++ ['\n'])

/-- The printed report on diagnostics and, if they are shown, symbols. -/
def text (diagnostics : List Diagnostic) (symbols? : Option (List Text)) : Text :=
  printed (symbols?.elim [] symbolSection ++ diagnosticSection diagnostics)

end PseudoLint.Report
