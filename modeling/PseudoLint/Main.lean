import PseudoLint.Command.Run

/-! # The command

Reads the files that the arguments name and runs the command on them.
-/

namespace PseudoLint.Command

def faultOfError : IO.Error → FileFault
  | .noFileOrDirectory _ _ _ => .missing
  | .inappropriateType _ code _ => if code == 21 then .isADirectory else .notADirectory
  | .resourceExhausted _ code details | .permissionDenied _ code details =>
    .other code.toNat details.toList
  | error => .other 5 (toString error).toList

def readFile (path : Path) : IO (Except FileFault Bytes) := do
  if path.parts.any (·.contains '\x00') then return .error .nullCharacter
  let name := String.ofList path.toText
  try
    return .ok (← IO.FS.readBinFile name).toList
  catch error =>
    return .error (faultOfError error)

/-- The paths of the files that arguments name: the configuration and the source. -/
def pathsOf (arguments : List Text) : List Path :=
  match parse arguments with
  | .ok (.checkFile file settings) =>
    (settings.config.toList ++ [file]).map Path.ofText
  | _ => []

def execute (arguments : List String) : IO UInt32 := do
  let texts := arguments.map String.toList
  let files ← (pathsOf texts).mapM fun path => do
    let content ← readFile path
    pure (path, content)
  match run (fun path => (files.lookup path).getD (.error .missing)) "cli" texts with
  | .ok output =>
    IO.print (String.ofList output.stdout)
    IO.eprint (String.ofList output.stderr)
    pure output.status.toUInt32
  | .error crash =>
    IO.eprintln (String.ofList crash.message)
    pure 1

end PseudoLint.Command

def main (arguments : List String) : IO UInt32 :=
  PseudoLint.Command.execute arguments
