import PseudoLint.Command.Option
import PseudoLint.Identifier
import PseudoLint.Text.Digit

/-! # Arguments of the command

Options may stand anywhere among the arguments. A long option may be cut short as long as it stays
unambiguous, its value may follow an equals sign, and short options may share one dash, with or
without an equals sign after the first letter. Two dashes end the options. What looks like a
negative number or contains a space is no option.
-/

namespace PseudoLint.Command

inductive Argument where
  | plain (text : Text)
  /-- The two dashes after which nothing is an option. -/
  | endOfOptions
  /-- An option in its long spelling, with the value after an equals sign. -/
  | long (flag : Flag) (value : Option Text)
  /-- A short option, with what follows its letter or the equals sign after it. -/
  | short (flag : Flag) (tail : Option Text)
  /-- What would be an option if there were one of that name. -/
  | unknown (text : Text)
deriving DecidableEq, Repr

/-- The text of a negative number: digits after a dash, or a point with digits after it. -/
def isNegativeNumber (text : Text) : Bool :=
  match dropFinalNewline text with
  | '-' :: body =>
    (!body.isEmpty && body.all isDecimal) ||
      match body.dropWhile isDecimal with
      | '.' :: fraction => !fraction.isEmpty && fraction.all isDecimal
      | _ => false
  | _ => false

/-- An argument that begins with two dashes. -/
def classifyLong (text : Text) : Except UsageFault Argument :=
  let (name, value) := Text.cut '=' text
  match Flag.ofSpelling? name with
  | some flag => .ok (.long flag value)
  | none =>
    match Flag.spellings.filter (name.isPrefixOf ·.1) with
    | [] => .ok (if text.contains ' ' then .plain text else .unknown text)
    | [(_, flag)] => .ok (.long flag value)
    | several => .error (.ambiguous text (several.map (·.1)))

/-- An argument that begins with a dash and another character. -/
def classifyShort (text : Text) : Argument :=
  match Flag.ofSpelling? (text.take 2) with
  | some flag =>
    match text.drop 2 with
    | [] => .short flag none
    | '=' :: tail => .short flag (some tail)
    | tail => .short flag (some tail)
  | none => if isNegativeNumber text || text.contains ' ' then .plain text else .unknown text

/-- An argument before the end of the options. -/
def classify (text : Text) : Except UsageFault Argument :=
  match text with
  | '-' :: '-' :: _ => classifyLong text
  | '-' :: _ :: _ => .ok (classifyShort text)
  | _ => .ok (.plain text)

def classifyAll : List Text → Except UsageFault (List Argument)
  | [] => .ok []
  | text :: rest =>
    if text == ['-', '-'] then .ok (.endOfOptions :: rest.map .plain)
    else do
      let argument ← classify text
      let others ← classifyAll rest
      pure (argument :: others)

/-- The options whose letters follow that of `flag` behind one dash. A letter that belongs to no
option makes the rest of the text a value, which the option before it does not take. -/
def cluster (flag : Flag) : Text → Except UsageFault (List Flag)
  | [] => .ok []
  | letter :: rest =>
    match Flag.ofSpelling? ['-', letter] with
    | some next => do
      let flags ← cluster next rest
      pure (next :: flags)
    | none => .error (.ignoredValue flag (letter :: rest))

/-- A short option together with those in its tail. A tail after an equals sign may be empty; then
it is a value that the option does not take. -/
def shortFlags (flag : Flag) : Option Text → Except UsageFault (List Flag)
  | none => .ok [flag]
  | some [] => .error (.ignoredValue flag [])
  | some tail => do
    let flags ← cluster flag tail
    pure (flag :: flags)

/-- The value that an option takes from the text after an equals sign. Two dashes stand for the
empty value. -/
def attachedValue (text : Text) : Text :=
  if text == ['-', '-'] then [] else text

/-- What has been gathered from the arguments so far. -/
structure Gathered where
  settings : Settings := {}
  file : Option Text := none
  unrecognized : List Text := []
deriving DecidableEq, Repr

/-- Settings with an option that takes no value switched on. -/
def Settings.switch (settings : Settings) : Flag → Settings
  | .json => { settings with json := true }
  | .autoReplace => { settings with autoReplace := true }
  | .symbols => { settings with symbols := true }
  | .verbose => { settings with verbose := true }
  | .help | .config => settings

inductive Invocation where
  | showHelp
  | checkFile (file : Text) (settings : Settings)
deriving DecidableEq, Repr

def Gathered.leave (gathered : Gathered) (text : Text) : Gathered :=
  { gathered with unrecognized := gathered.unrecognized ++ [text] }

/-- Takes an argument that is no option: the first one is the file. -/
def Gathered.takePlain (gathered : Gathered) (text : Text) : Gathered :=
  match gathered.file with
  | none => { gathered with file := some text }
  | some _ => gathered.leave text

def Gathered.finish (gathered : Gathered) : Except UsageFault Invocation :=
  match gathered.file, gathered.unrecognized with
  | none, _ => .error .missingFile
  | some file, [] => .ok (.checkFile file gathered.settings)
  | some _, unrecognized => .error (.unrecognized unrecognized)

/-- Gathers arguments from left to right. Two dashes next to the file belong to it. -/
def gather : List Argument → Gathered → Except UsageFault Invocation
  | [], gathered => gathered.finish
  | .plain text :: .endOfOptions :: rest, gathered =>
    if gathered.file.isNone then gather rest (gathered.takePlain text)
    else gather rest ((gathered.leave text).leave ['-', '-'])
  | .plain text :: rest, gathered => gather rest (gathered.takePlain text)
  | .endOfOptions :: .plain text :: rest, gathered =>
    if gathered.file.isNone then gather rest (gathered.takePlain text)
    else gather rest ((gathered.leave ['-', '-']).leave text)
  | .endOfOptions :: rest, gathered => gather rest (gathered.leave ['-', '-'])
  | .unknown text :: rest, gathered => gather rest (gathered.leave text)
  | .short flag tail :: rest, gathered => do
    let flags ← shortFlags flag tail
    if flags.contains .help then .ok .showHelp
    else gather rest { gathered with settings := flags.foldl Settings.switch gathered.settings }
  | .long .help none :: _, _ => .ok .showHelp
  | .long .config (some value) :: rest, gathered =>
    gather rest
      { gathered with settings := { gathered.settings with config := some (attachedValue value) } }
  | .long .config none :: .plain value :: rest, gathered =>
    gather rest { gathered with settings := { gathered.settings with config := some value } }
  | .long .config none :: _, _ => .error (.missingValue .config)
  | .long flag (some value) :: _, _ => .error (.ignoredValue flag value)
  | .long flag none :: rest, gathered =>
    gather rest { gathered with settings := gathered.settings.switch flag }

def parse (arguments : List Text) : Except UsageFault Invocation := do
  let classified ← classifyAll arguments
  gather classified {}

end PseudoLint.Command
