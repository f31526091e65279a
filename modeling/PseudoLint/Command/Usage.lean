import PseudoLint.Command.Option
import PseudoLint.Text.Quoted

/-! # Usage texts

How the command explains itself and what it says about arguments that make no sense.
-/

namespace PseudoLint.Command

def usage : List Text :=
  ["usage: pseudocheck [-h] [--json] [--auto-replace] [--config FILE] [--symbols]",
    "                   [-v]",
    "                   file"]

/-- What the command is for and what its arguments mean. -/
def explanation : List Text :=
  List.map String.toList
    ["",
      "Verifica pseudocódigo Cambridge 9618 y muestra los diagnósticos.",
      "",
      "positional arguments:",
      "  file            Archivo de pseudocódigo (.pseudo, .txt)",
      "",
      "options:",
      "  -h, --help      show this help message and exit",
      "  --json          Imprime el resultado como JSON",
      "  --auto-replace  Aplica los atajos (<--, !=, <=, >=) antes de verificar",
      "  --config FILE   Archivo JSON de configuración",
      "  --symbols       Muestra la tabla de símbolos",
      "  -v, --verbose   Activa el log de depuración"]

def help : List Text :=
  usage ++ explanation

def UsageFault.message : UsageFault → Text
  | .missingFile => "the following arguments are required: file"
  | .unrecognized arguments => "unrecognized arguments: " ++ Text.join " " arguments
  | .missingValue flag => "argument " ++ flag.name ++ ": expected one argument"
  | .ignoredValue flag value =>
    "argument " ++ flag.name ++ ": ignored explicit argument " ++ value.quoted
  | .ambiguous argument spellings =>
    "ambiguous option: " ++ argument ++ " could match " ++ Text.join ", " spellings

def UsageFault.report (fault : UsageFault) : List Text :=
  usage ++ ["pseudocheck: error: ".toList ++ fault.message]

end PseudoLint.Command
