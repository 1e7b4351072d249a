import IngressBalancer.CommandLine.Command
import IngressBalancer.Program.About
/-!
# Help

What is printed about the use of the program.
-/

namespace IngressBalancer

namespace CommandLine

/-- A text in capital letters, with underscores for hyphens. -/
def placeholder (name : String) : String :=
  String.ofList (name.toList.map fun c => if c = '-' then '_' else c.toUpper)

/-- What is said about one flag. -/
def Flag.help (f : Flag) : List String :=
  ["      --" ++ f.name ++ " <" ++ placeholder f.name ++ ">",
    "          " ++ f.about ++ " [env: " ++ f.envName ++ "=]"]

/-- How the program is used. -/
def help : String :=
  "\n".intercalate ([
    Program.about,
    "",
    "Usage: " ++ Program.name ++ " <COMMAND>",
    "",
    "Commands:",
    "  run      Run the controller",
    "  version  Show version information",
    "  help     Print this message or the help of the given subcommand(s)",
    "",
    "Options:",
    "  -h, --help     Print help",
    "  -V, --version  Print version",
    "",
    "Options of run:"] ++ runFlags.flatMap Flag.help ++ [""])

def UsageFault.message : UsageFault → String
  | .unknownArgument argument => "unexpected argument '" ++ argument ++ "' found"
  | .missingValue flag => "a value is required for '--" ++ flag ++ "' but none was supplied"
  | .badValue flag value | .badChoice flag value =>
    "invalid value '" ++ value ++ "' for '--" ++ flag ++ "'"
  | .repeatedFlag flag => "the argument '--" ++ flag ++ "' cannot be used multiple times"
  | .needlessValue flag => "unexpected value for '--" ++ flag ++ "'"
  | .unknownCommand command => "unrecognized subcommand '" ++ command ++ "'"
  | .noCommand => "a subcommand is required"

end CommandLine

end IngressBalancer
