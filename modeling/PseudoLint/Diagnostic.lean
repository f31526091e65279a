import PseudoLint.Text.Basic

/-! # Diagnostics

A diagnostic reports one finding on one line. Two diagnostics with the same line and message are
duplicates, whatever their severity and code, and the first one counts. A source is valid if none
of its diagnostics is an error.
-/

namespace PseudoLint

/-- How serious a diagnostic is. Diagnostics from elsewhere may carry another label. -/
inductive Severity where
  | error
  | warning
  | other (label : Text)
deriving DecidableEq, Repr

namespace Severity

def label : Severity → Text
  | .error => "error"
  | .warning => "warning"
  | .other label => label

def ofLabel (label : Text) : Severity :=
  if label == "error" then .error
  else if label == "warning" then .warning
  else .other label

end Severity

structure Diagnostic where
  line : Int
  message : Text
  severity : Severity
  code : Text
deriving DecidableEq, Repr

namespace Diagnostic

/-- What identifies a diagnostic among duplicates. -/
def key (diagnostic : Diagnostic) : Int × Text :=
  (diagnostic.line, diagnostic.message)

/-- Whether a diagnostic makes its source invalid. -/
def isError (diagnostic : Diagnostic) : Bool :=
  diagnostic.severity == .error

def isWarning (diagnostic : Diagnostic) : Bool :=
  diagnostic.severity == .warning

/-- Keeps the first diagnostic of each key that is not among the keys seen before. -/
def dedupFrom (seen : List (Int × Text)) : List Diagnostic → List Diagnostic
  | [] => []
  | diagnostic :: rest =>
    if seen.contains diagnostic.key then dedupFrom seen rest
    else diagnostic :: dedupFrom (diagnostic.key :: seen) rest

/-- Keeps the first diagnostic of each key, in order. -/
def dedup (diagnostics : List Diagnostic) : List Diagnostic :=
  dedupFrom [] diagnostics

/-- Whether no diagnostic is an error. -/
def allValid (diagnostics : List Diagnostic) : Bool :=
  !diagnostics.any isError

def errors (diagnostics : List Diagnostic) : List Diagnostic :=
  diagnostics.filter isError

def warnings (diagnostics : List Diagnostic) : List Diagnostic :=
  diagnostics.filter isWarning

def onLine (line : Int) (diagnostics : List Diagnostic) : List Diagnostic :=
  diagnostics.filter (·.line == line)

end Diagnostic

end PseudoLint
