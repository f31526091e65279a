import PseudoLint.Page.Session
import PseudoLint.Report.Table

/-! # What the page shows

Below the editor the page shows the console and the last result: its verdict, its numbers of errors
and warnings, the table of diagnostics if there are any, and the table of symbols if the user wants
it, with the raw symbols beside it on request.
-/

namespace PseudoLint.Page

structure View where
  console : Text
  /-- The verdict on a valid source. -/
  success : Option Text := none
  /-- The verdict on a source with errors. -/
  error : Option Text := none
  notices : List Text := []
  metrics : List (Text × Text) := []
  diagnostics : List DiagnosticRow := []
  symbols : List SymbolRow := []
  rawJson : Option Bool := none
  json : Option Json := none
deriving Repr

/-- The console as it is shown: without blanks around it, or a placeholder if it is empty. -/
def shownConsole (console : Text) : Text :=
  if console.isEmpty then "// La salida aparecerá aquí..." else console.trim

def viewResult (widgets : Widgets) (console : Text) (check : Check) : View :=
  let summary := Summary.ofDiagnostics check.diagnostics
  let symbols := if widgets.showSymbols then SymbolRow.ofListings check.symbols else []
  { console := shownConsole console
    success := if summary.valid then some summary.title else none
    error := if summary.valid then none else some summary.title
    notices :=
      if widgets.showSymbols && !check.symbols.isEmpty && symbols.isEmpty then
        ["No hay símbolos para mostrar.".toList]
      else []
    metrics :=
      [("Errores", Numeral.ofNat summary.errors), ("Advertencias", Numeral.ofNat summary.warnings)]
    diagnostics := DiagnosticRow.ofDiagnostics check.diagnostics
    symbols
    rawJson := widgets.rawJson
    json := if widgets.rawJson = some true then some (Listing.allToJson check.symbols) else none }

def view (page : Page) : View :=
  match page.session.lastResult with
  | none =>
    { console := shownConsole page.session.console
      notices := ["Ejecuta la verificación para ver resultados.".toList] }
  | some check => viewResult page.widgets page.session.console check

end PseudoLint.Page
