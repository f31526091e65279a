import PseudoLint.Json.Basic
import PseudoLint.Text.CaseMap

/-! # Configuration

A configuration sets the unit of indentation, the modes in which files may be opened and the
shortcuts of the editor. It is given as a JSON object with at most these three members; a member
that is absent takes its standard value.

A shortcut is an ASCII spelling of a symbol of the dialect. Shortcuts are replaced one after another
over the whole text, longer ones first, so that no shortcut is split by a shorter one; shortcuts of
one length keep the order of their table.
-/

namespace PseudoLint

/-! ## Shortcuts -/

namespace Shortcut

/-- The shortcuts used unless a configuration gives others. -/
def standard : Registry Text :=
  [("<--", "←"), ("!=", "≠"), ("<=", "≤"), (">=", "≥")]

/-- A table in the order in which its shortcuts are replaced. -/
def inOrder (table : Registry Text) : List (Text × Text) :=
  stableSort (fun left right => decide (right.1.length ≤ left.1.length)) table

/-- Replaces the shortcuts of a table by their symbols. -/
def expand (table : Registry Text) (text : Text) : Text :=
  (inOrder table).foldl (fun text shortcut => text.replace shortcut.1 shortcut.2) text

end Shortcut

/-! ## Settings -/

structure Config where
  indentUnit : Int := 3
  fileModes : List Text := ["READ", "WRITE", "APPEND"]
  shortcuts : Registry Text := Shortcut.standard
deriving DecidableEq, Repr

namespace Config

/-- Why a JSON value is no configuration. -/
inductive Fault where
  | notAnObject
  | unknownKey (key : Text)
  | indentUnit
  | fileModes
  | shortcuts
deriving DecidableEq, Repr

namespace Fault

def key? : Fault → Option Text
  | .notAnObject => none
  | .unknownKey key => some key
  | .indentUnit => some "indent_unit"
  | .fileModes => some "file_modes"
  | .shortcuts => some "shortcuts"

/-- The wording of a fault before the member is named. -/
def summary : Fault → Text
  | .notAnObject => "La configuración debe ser un objeto JSON"
  | .unknownKey _ => "Clave de configuración desconocida"
  | .indentUnit => "indent_unit debe ser un entero >= 1"
  | .fileModes => "file_modes debe ser una lista no vacía de strings"
  | .shortcuts => "shortcuts debe mapear strings a strings"

def message (fault : Fault) : Text :=
  match fault.key? with
  | some key => fault.summary ++ " (clave '" ++ key ++ "')"
  | none => fault.summary

end Fault

def knownKeys : List Text :=
  ["indent_unit", "file_modes", "shortcuts"]

def least? : List Text → Option Text
  | [] => none
  | text :: rest =>
    match least? rest with
    | none => some text
    | some other => some (if Text.ordered text other then text else other)

/-- A unit of indentation is an integer of at least one. -/
def readIndentUnit? : Json → Option Int
  | .int unit => if 1 ≤ unit then some unit else none
  | _ => none

def readMode? : Json → Option Text
  | .str [] => none
  | .str mode => some mode
  | _ => none

/-- File modes are a non-empty list of non-empty strings; they are kept in capitals. -/
def readFileModes? : Json → Option (List Text)
  | .arr [] => none
  | .arr modes => (modes.mapM readMode?).map (·.map Text.upper)
  | _ => none

/-- A shortcut is a non-empty key with a string. -/
def readShortcut? : Text × Json → Option (Text × Text)
  | ([], _) => none
  | (shortcut, .str symbol) => some (shortcut, symbol)
  | _ => none

/-- Shortcuts are an object of strings with non-empty keys. -/
def readShortcuts? : Json → Option (Registry Text)
  | .obj members => members.mapM readShortcut?
  | _ => none

/-- Reads the member `key` with `read?`, or takes the standard value if it is absent. -/
def readMember {α : Type} (members : Registry Json) (key : Text) (standard : α)
    (read? : Json → Option α) (fault : Fault) : Except Fault α :=
  match members.get? key with
  | none => .ok standard
  | some value =>
    match read? value with
    | some read => .ok read
    | none => .error fault

/-- Reads a configuration. An unknown member is reported before any other fault, and the least of
several unknown ones; the known members are read in a fixed order. -/
def ofJson : Json → Except Fault Config
  | .obj members =>
    match least? ((Registry.names members).filter (!knownKeys.contains ·)) with
    | some key => .error (.unknownKey key)
    | none => do
      let standard : Config := {}
      let unit ← readMember members "indent_unit" standard.indentUnit readIndentUnit? .indentUnit
      let modes ← readMember members "file_modes" standard.fileModes readFileModes? .fileModes
      let shortcuts ←
        readMember members "shortcuts" standard.shortcuts readShortcuts? .shortcuts
      pure ⟨unit, modes, shortcuts⟩
  | _ => .error .notAnObject

/-- A configuration as the JSON object that describes it in full. -/
def toJson (config : Config) : Json :=
  .obj [("indent_unit", .int config.indentUnit),
    ("file_modes", .arr (config.fileModes.map .str)),
    ("shortcuts", .obj (config.shortcuts.map fun shortcut => (shortcut.1, .str shortcut.2)))]

end Config

end PseudoLint
