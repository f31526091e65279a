import PseudoLint.Text.Basic

/-! # Options of the command

The options with their spellings. Some have a short spelling of one letter beside the long one;
one option takes a value.
-/

namespace PseudoLint.Command

inductive Flag where
  | help
  | json
  | autoReplace
  | config
  | symbols
  | verbose
deriving DecidableEq, Repr

namespace Flag

def spellings : List (Text × Flag) :=
  [("-h", .help), ("--help", .help), ("--json", .json), ("--auto-replace", .autoReplace),
    ("--config", .config), ("--symbols", .symbols), ("-v", .verbose), ("--verbose", .verbose)]

def ofSpelling? (spelling : Text) : Option Flag :=
  spellings.lookup spelling

/-- The name of an option in messages: all its spellings. -/
def name (flag : Flag) : Text :=
  Text.join "/" ((spellings.filter (·.2 == flag)).map (·.1))

end Flag

/-- What the command is asked to do with a file. -/
structure Settings where
  json : Bool := false
  autoReplace : Bool := false
  config : Option Text := none
  symbols : Bool := false
  verbose : Bool := false
deriving DecidableEq, Repr

/-- Why the arguments of the command make no sense. -/
inductive UsageFault where
  | missingFile
  | unrecognized (arguments : List Text)
  | missingValue (flag : Flag)
  | ignoredValue (flag : Flag) (value : Text)
  | ambiguous (argument : Text) (spellings : List Text)
deriving DecidableEq, Repr

end PseudoLint.Command
