import PseudoLint.Check
import PseudoLint.Json.Basic

/-! # Results as JSON

The result of a check is an object with the verdict, the diagnostics in order of emission and the
listed symbols.
-/

namespace PseudoLint

def Diagnostic.toJson (diagnostic : Diagnostic) : Json :=
  .obj [("line", .int diagnostic.line), ("message", .str diagnostic.message),
    ("severity", .str diagnostic.severity.label), ("code", .str diagnostic.code)]

def ListingEntry.toJson (entry : ListingEntry) : Json :=
  .obj [("name", .str entry.name), ("kind", .str entry.kind), ("type", .str entry.type),
    ("line", .int entry.line)]

def Listing.toJson (listing : Listing) : Json :=
  .obj [("scope", .str listing.scope), ("entries", .arr (listing.entries.map ListingEntry.toJson))]

def Listing.allToJson (listings : List Listing) : Json :=
  .arr (listings.map Listing.toJson)

def resultJson (diagnostics : List Diagnostic) (symbols : Json) : Json :=
  .obj [("isValid", .bool (Diagnostic.allValid diagnostics)),
    ("diagnostics", .arr (diagnostics.map Diagnostic.toJson)), ("symbols", symbols)]

def Check.toJson (check : Check) : Json :=
  resultJson check.diagnostics (Listing.allToJson check.symbols)

/-- Why a JSON value could not be checked as a source. -/
inductive SourceFault where
  | notText (kind : Text)
  | unchecked (cause : Fault)
deriving DecidableEq, Repr

def SourceFault.message : SourceFault → Text
  | .notText kind => "El texto fuente debe ser str, no " ++ kind
  | .unchecked cause => cause.message

def Check.ofJson (config : Config) : Json → Except SourceFault Check
  | .str source => (Check.run config source).mapError .unchecked
  | value => .error (.notText value.kindName)

end PseudoLint
