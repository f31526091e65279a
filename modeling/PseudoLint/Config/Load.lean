import PseudoLint.Config
import PseudoLint.File.Tree
import PseudoLint.Json.Reader

/-! # Configuration files

A configuration is read from a JSON file. A file that cannot be read, is no JSON or holds no
configuration is a configuration error; bytes that are no text, integers that are too long and
strings that are no text are faults of their own.
-/

namespace PseudoLint.Config

/-- Why a configuration file could not be used. -/
inductive LoadFault where
  | unreadable (path : Path) (fault : FileFault)
  | malformed (path : Path) (complaint : Json.Complaint) (line : Nat)
  | invalid (fault : Fault)
  | undecodable (fault : Utf8.Fault)
  | tooManyDigits (count : Nat)
  | loneSurrogate
deriving DecidableEq, Repr

namespace LoadFault

/-- Whether the fault lies in the configuration, and not in the path or the encoding. -/
def isConfigError : LoadFault → Bool
  | .unreadable _ .nullCharacter | .undecodable _ | .tooManyDigits _ | .loneSurrogate => false
  | .unreadable _ _ | .malformed _ _ _ | .invalid _ => true

def key? : LoadFault → Option Text
  | .invalid fault => fault.key?
  | _ => none

def message : LoadFault → Text
  | .unreadable path .nullCharacter => FileFault.nullCharacter.message path
  | .unreadable path fault =>
    "No se pudo leer la configuración " ++ path.toText ++ ": " ++ fault.message path
  | .malformed path complaint line =>
    "JSON inválido en " ++ path.toText ++ ": " ++ complaint.message ++ " (línea " ++
      Numeral.ofNat line ++ ")"
  | .invalid fault => fault.message
  | .undecodable fault => fault.message
  | .tooManyDigits count => Numeral.limitMessage (some count)
  | .loneSurrogate => "surrogates not allowed"

end LoadFault

/-- Reads the configuration in the text of a file. -/
def ofText (path : Path) (text : Text) : Except LoadFault Config :=
  match Json.read text with
  | .ok json => (ofJson json).mapError .invalid
  | .error (.malformed complaint rest) =>
    .error (.malformed path complaint (Json.lineOf text rest))
  | .error (.tooManyDigits count) => .error (.tooManyDigits count)
  | .error .loneSurrogate => .error .loneSurrogate

def load (reader : FileReader) (path : Path) : Except LoadFault Config := do
  let bytes ← (reader path).mapError (.unreadable path)
  let text ← (decodeFile bytes).mapError .undecodable
  ofText path text

end PseudoLint.Config
