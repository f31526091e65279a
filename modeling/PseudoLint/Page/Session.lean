import PseudoLint.Check
import PseudoLint.Sample.Discovery
import PseudoLint.Text.Utf8

/-! # The editor page

The page keeps a session and a set of widgets. Every interaction sets some widgets and then runs
the page once from the top: it loads a newly uploaded file or a newly chosen sample, appends a
symbol, draws the editor, and checks the code if it was asked to.

The editor is drawn under a key. While the key stays the same the editor holds the text that was
last put into it; under a new key it starts with the code of the session. So the session takes its
code from the editor only after the key has been settled for the run.
-/

namespace PseudoLint.Page

/-! ## State -/

structure Upload where
  name : Text
  bytes : Bytes
deriving DecidableEq, Repr

/-- What the page remembers between runs. -/
structure Session where
  code : Text
  console : Text := []
  editorKey : Nat := 0
  uploadedName : Option Text := none
  sampleName : Option Text := none
  lastResult : Option Check := none
  /-- A check is due because a file or sample was loaded. -/
  checkDue : Bool := false
deriving DecidableEq, Repr

/-- What the widgets hold. -/
structure Widgets where
  upload : Option Upload := none
  sample : Text
  autoCheck : Bool := false
  autoReplace : Bool := true
  showSymbols : Bool := true
  /-- The key under which the editor was last drawn. -/
  editorKey : Nat := 0
  editorText : Text
  /-- The toggle for raw JSON, while it is on the page. -/
  rawJson : Option Bool := none
deriving DecidableEq, Repr

/-- A button of the page. -/
inductive Button where
  | check
  | clear
  | clearOutput
  | symbol (text : Text)
deriving DecidableEq, Repr

/-- What a user does before the page runs again. -/
structure Interaction where
  edit : Option Text := none
  upload : Option (Option Upload) := none
  sample : Option Text := none
  autoCheck : Option Bool := none
  autoReplace : Option Bool := none
  showSymbols : Option Bool := none
  rawJson : Option Bool := none
  click : Option Button := none
deriving DecidableEq, Repr

/-! ## Texts -/

def startCode : Text :=
  "// Cambridge Pseudocode IDE (9618 - 2026 Standards)\n" ++
    "// Write your pseudocode here using UPPERCASE keywords\n" ++
    "// Remember: Use ← for assignment, = only for CONSTANT\n" ++
    "\n" ++
    "PROCEDURE Example()\n" ++
    "   DECLARE message: STRING\n" ++
    "   DECLARE count: INTEGER\n" ++
    "\n" ++
    "   message ← \"Hello, Cambridge!\"\n" ++
    "   count ← 5\n" ++
    "\n" ++
    "   OUTPUT \"Message: \", message\n" ++
    "   OUTPUT \"Count: \", count\n" ++
    "ENDPROCEDURE\n"

def clearedCode : Text :=
  "// Write your pseudocode here\n// Use UPPERCASE for all keywords\n\n"

/-- The choice that loads no sample. -/
def noSample : Text :=
  "(ninguno)"

def sampleChoices : List Text :=
  noSample :: stableSort Text.ordered Sample.builtIn.names

/-! ## Steps of a run -/

namespace Session

/-- Appends a line to the console. -/
def say (session : Session) (line : Text) : Session :=
  { session with console := session.console ++ line ++ ['\n'] }

/-- Replaces the code by that of a file or sample, which is then due for a check. -/
def replaceCode (session : Session) (code : Text) : Session :=
  { session with code, editorKey := session.editorKey + 1, checkDue := true }

/-- Loads an uploaded file unless one of its name was loaded last. -/
def loadUpload (session : Session) : Option Upload → Session
  | none => session
  | some upload =>
    if session.uploadedName = some upload.name then session
    else
      { (session.replaceCode (decodeUpload upload.bytes)).say ("📄 Cargado: " ++ upload.name) with
        uploadedName := some upload.name }

/-- Loads a chosen sample unless it was loaded last. -/
def loadSample (session : Session) (choice : Text) : Session :=
  if choice = noSample ∨ session.sampleName = some choice then session
  else
    let code := (Sample.builtIn.get? choice).getD []
    { (session.replaceCode code).say ("📦 Ejemplo cargado: " ++ choice) with
      sampleName := some choice }

/-- Appends a symbol to the code if its button was pressed. -/
def pressSymbol (session : Session) : Option Button → Session
  | some (.symbol text) =>
    { session with code := session.code ++ text, editorKey := session.editorKey + 1 }
  | _ => session

/-- Starts over with the cleared code. -/
def clear (session : Session) : Session :=
  { session with code := clearedCode, lastResult := none, editorKey := session.editorKey + 1 }

/-- The console line that reports a check. -/
def verdict (check : Check) : Text :=
  let warnings := Numeral.ofNat (Diagnostic.warnings check.diagnostics).length
  if check.isValid then "✅ Verificación sin errores (" ++ warnings ++ " advertencias)."
  else
    "❌ Errores: " ++ Numeral.ofNat (Diagnostic.errors check.diagnostics).length ++
      ", advertencias: " ++ warnings

/-- Puts the code with its shortcuts replaced in place of the code, if they differ. -/
def adopt (session : Session) (code : Text) : Session :=
  if code = session.code then session
  else
    { session with code, editorKey := session.editorKey + 1 }.say
      "🔁 Atajos reemplazados por símbolos."

/-- Checks the code, with its shortcuts replaced if the user wants that. -/
def check (session : Session) (autoReplace : Bool) : Session :=
  let config : Config := {}
  let code := if autoReplace then Shortcut.expand config.shortcuts session.code else session.code
  match Check.run config code with
  | .ok result => { session.adopt code with lastResult := some result }.say (verdict result)
  | .error fault =>
    { session with lastResult := none }.say ("💥 Excepción: " ++ fault.message)

/-- Whether a run checks the code: the button was pressed, a check is due, or checks are automatic
and there is code. -/
def wantsCheck (session : Session) (autoCheck : Bool) (click : Option Button) : Bool :=
  click == some .check || session.checkDue || (autoCheck && !session.code.trim.isEmpty)

/-- The part of a run after the editor was drawn: pressing the button for a check leaves a check
that is due for a later run. -/
def finishRun (session : Session) (widgets : Widgets) (click : Option Button) : Session :=
  let session := if click = some .clearOutput then { session with console := [] } else session
  let wanted := session.wantsCheck widgets.autoCheck click
  let session := if click = some .check then session else { session with checkDue := false }
  if wanted then session.check widgets.autoReplace else session

end Session

namespace Widgets

/-- The widgets after a user has set some of them. The toggle can be set only while it is on the
page. -/
def set (widgets : Widgets) (interaction : Interaction) : Widgets :=
  { widgets with
    upload := interaction.upload.getD widgets.upload
    sample := interaction.sample.getD widgets.sample
    autoCheck := interaction.autoCheck.getD widgets.autoCheck
    autoReplace := interaction.autoReplace.getD widgets.autoReplace
    showSymbols := interaction.showSymbols.getD widgets.showSymbols
    editorText := interaction.edit.getD widgets.editorText
    rawJson := widgets.rawJson.map fun value => interaction.rawJson.getD value }

/-- Draws the editor: under a new key it takes the code of the session. -/
def drawEditor (widgets : Widgets) (session : Session) : Widgets :=
  if widgets.editorKey = session.editorKey then widgets
  else { widgets with editorKey := session.editorKey, editorText := session.code }

/-- Whether the table of symbols is on the page. -/
def showsSymbols (widgets : Widgets) (session : Session) : Bool :=
  widgets.showSymbols &&
    session.lastResult.any fun result => result.symbols.any fun listing => !listing.entries.isEmpty

/-- Draws the toggle for raw JSON beside the table of symbols; it starts switched off. -/
def drawToggle (widgets : Widgets) (session : Session) : Widgets :=
  { widgets with
    rawJson := if widgets.showsSymbols session then some (widgets.rawJson.getD false) else none }

end Widgets

/-! ## Runs -/

end Page

/-- The page between two interactions. -/
structure Page where
  session : Page.Session
  widgets : Page.Widgets
deriving DecidableEq, Repr

namespace Page

/-- The part of a run up to the editor: what was uploaded, chosen or appended goes into the
session, and the code is taken from the editor. -/
def drawTop (page : Page) (click : Option Button) : Page :=
  let session := page.session.loadUpload page.widgets.upload
  let session := session.loadSample page.widgets.sample
  let session := session.pressSymbol click
  let widgets := page.widgets.drawEditor session
  ⟨{ session with code := widgets.editorText }, widgets⟩

def drawBottom (page : Page) (click : Option Button) : Page :=
  let session := page.session.finishRun page.widgets click
  ⟨session, page.widgets.drawToggle session⟩

/-- The page cleared after its top was drawn, when nothing below the editor is on it. -/
def cleared (page : Page) : Page :=
  ⟨page.session.clear, { page.widgets with rawJson := none }⟩

/-- One run of the page. Clearing starts a second run in which no button is pressed. -/
def run (page : Page) (click : Option Button) : Page :=
  let top := page.drawTop click
  if click = some .clear then (top.cleared.drawTop none).drawBottom none
  else top.drawBottom click

def interact (page : Page) (interaction : Interaction) : Page :=
  Page.run ⟨page.session, page.widgets.set interaction⟩ interaction.click

def blank : Page where
  session := { code := startCode }
  widgets := { sample := noSample, editorText := startCode }

def start : Page :=
  blank.run none

end Page

end PseudoLint
