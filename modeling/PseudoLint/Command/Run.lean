import PseudoLint.Command.Arguments
import PseudoLint.Command.Usage
import PseudoLint.Config.Load
import PseudoLint.Json.Writer
import PseudoLint.Report.Printed

/-! # Running the command

The command checks one file and prints the report or the result as JSON. It exits with status 0 if
the source is valid, 2 if it has errors or the arguments make no sense, and 1 if a file could not
be used. A path with a null character and an integer that is too long end the run without an exit
status. So does a configuration with a string that is no text, of which nothing more is said here.
-/

namespace PseudoLint.Command

/-- What a finished run leaves behind. -/
structure Output where
  status : Nat
  stdout : Text := []
  stderr : Text := []
deriving DecidableEq, Repr

/-- Why a run ends without an exit status. -/
inductive Crash where
  | nullCharacter
  | tooManyDigits (count : Nat)
  | loneSurrogate
  | check (fault : Fault)
deriving DecidableEq, Repr

def Crash.message : Crash → Text
  | .nullCharacter => "embedded null byte"
  | .tooManyDigits count => Numeral.limitMessage (some count)
  | .loneSurrogate => "surrogates not allowed"
  | .check fault => fault.message

def unusable (message : Text) : Output :=
  ⟨1, [], Report.printed [message]⟩

def unreadableSource (file message : Text) : Output :=
  unusable ("No se pudo leer " ++ file ++ ": " ++ message)

/-- The configuration that the settings name; an empty name stands for none. -/
def loadConfig (reader : FileReader) (settings : Settings) : Except Config.LoadFault Config :=
  match settings.config with
  | none | some [] => .ok {}
  | some name => Config.load reader (Path.ofText name)

/-- The outcome of a configuration that could not be loaded. Bytes that are no text are reported
under the name of the source. -/
def configOutcome (file : Text) (fault : Config.LoadFault) : Except Crash Output :=
  match fault with
  | .unreadable _ .nullCharacter => .error .nullCharacter
  | .tooManyDigits count => .error (.tooManyDigits count)
  | .loneSurrogate => .error .loneSurrogate
  | .undecodable cause => .ok (unreadableSource file cause.message)
  | .unreadable _ _ | .malformed _ _ _ | .invalid _ => .ok (unusable ("Error: " ++ fault.message))

/-- The log of a check, under the name of the component that wrote each line. -/
def log (component file : Text) (check : Check) : List Text :=
  let shown := Numeral.ofNat check.diagnostics.length
  let ofCheck : List Text :=
    if check.hasContent then
      ["DEBUG semantic.checker: checked ".toList ++ Numeral.ofNat check.lineCount ++ " lines: " ++
        shown ++ " diagnostics (" ++ Numeral.ofNat check.emitted.length ++ " before dedup), " ++
        Numeral.ofNat check.state.blocks.length ++ " unclosed blocks"]
    else []
  ofCheck ++ ["DEBUG ".toList ++ component ++ ": " ++ file ++ ": " ++ shown ++ " diagnósticos"]

def present (file : Text) (settings : Settings) (check : Check) : Text :=
  if settings.json then Report.printed [check.toJson.indented 0]
  else
    let symbols? := if settings.symbols then some (Report.symbolLines check.symbols) else none
    Report.printed ["Procesando archivo ".toList ++ file ++ "...", []] ++
      Report.text check.diagnostics symbols?

def finished (component file : Text) (settings : Settings) (check : Check) : Output where
  status := if check.isValid then 0 else 2
  stdout := present file settings check
  stderr := if settings.verbose then Report.printed (log component file check) else []

def checkText (component file : Text) (settings : Settings) (config : Config) (text : Text) :
    Except Crash Output :=
  let source := if settings.autoReplace then Shortcut.expand config.shortcuts text else text
  match Check.run config source with
  | .ok check => .ok (finished component file settings check)
  | .error fault => .error (.check fault)

def checkSource (reader : FileReader) (component file : Text) (settings : Settings)
    (config : Config) : Except Crash Output :=
  let path := Path.ofText file
  match reader path with
  | .error .nullCharacter => .error .nullCharacter
  | .error fault => .ok (unreadableSource file (fault.message path))
  | .ok bytes =>
    match decodeFile bytes with
    | .error fault => .ok (unreadableSource file fault.message)
    | .ok text => checkText component file settings config text

/-- Checks a file: the configuration is read before the source. -/
def checkFile (reader : FileReader) (component file : Text) (settings : Settings) :
    Except Crash Output :=
  match loadConfig reader settings with
  | .error fault => configOutcome file fault
  | .ok config => checkSource reader component file settings config

/-- Runs the command. `component` is the name under which it writes its own log. -/
def run (reader : FileReader) (component : Text) (arguments : List Text) : Except Crash Output :=
  match parse arguments with
  | .error fault => .ok ⟨2, [], Report.printed fault.report⟩
  | .ok .showHelp => .ok ⟨0, Report.printed help, []⟩
  | .ok (.checkFile file settings) => checkFile reader component file settings

end PseudoLint.Command
