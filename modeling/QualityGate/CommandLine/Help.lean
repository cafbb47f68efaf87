/-
What the command says about itself.
-/
import QualityGate.CommandLine.Arguments

namespace QualityGate.Help

/-- The name of the program. -/
def programName : String := "codegate"

/-- The version of the program. -/
def versionNumber : String := "0.1.0"

/-- The variable of the environment that can hold the path of a configuration. -/
def configVariable : String := "CODEGATE_CONFIG"

/-- The variables of the environment that the command looks at. -/
def variableNames : List String :=
  [configVariable, "NO_COLOR", "COLOR", "CI", "TERM"]

/-- The line for the version. -/
def version : Level → String
  | .root => programName ++ " " ++ versionNumber ++ "\n"
  | .check => programName ++ "-check " ++ versionNumber ++ "\n"

/-- The sentence for the path of a configuration, with its value in the environment. -/
def configSentence (environment : Option String) : String :=
  "Use specific config file [env: " ++ configVariable ++ "=" ++ environment.getD "" ++ "]"

/-- Lines with a line end each. -/
def linesText (lines : List String) : String :=
  String.join (lines.map (· ++ "\n"))

/-- The help text of a level. -/
def text (level : Level) (environment : Option String) : String :=
  match level with
  | .root => linesText [
      "A quality gate that runs a fixed chain of code checks over Python source trees",
      "",
      "Usage: codegate [OPTIONS] [COMMAND]",
      "",
      "Commands:",
      "  check  Run the quality checks",
      "  help   Print this message or the help of the given subcommand(s)",
      "",
      "Options:",
      "  -C, --config <CONFIG>  " ++ configSentence environment,
      "  -h, --help             Print help",
      "  -V, --version          Print version"]
  | .check => linesText [
      "Run the quality checks",
      "",
      "Usage: codegate check [OPTIONS] [PATH]",
      "",
      "Arguments:",
      "  [PATH]  Project directory to check (default: current directory)",
      "",
      "Options:",
      "  -o, --output <OUTPUT>  Output format [default: text] [possible values: text, json]",
      "      --json <FILE>      Also save the JSON report to FILE",
      "      --src-dirs <LIST>  Comma-separated source directories, overriding the config file",
      "      --auto-commit      Record auto-commit as enabled in the configuration",
      "      --color            Force color output",
      "      --no-color         Disable color output",
      "  -C, --config <CONFIG>  " ++ configSentence environment,
      "  -h, --help             Print help",
      "  -V, --version          Print version"]

/-- What is said of a fault in the use of the command line. -/
def faultText : UsageFault → String
  | .unknownArgument => "error: unexpected argument found\n"
  | .invalidValue => "error: invalid or missing value for an argument\n"
  | .argumentConflict => "error: an argument cannot be used with another one or twice\n"
  | .tooManyValues => "error: unexpected value for an argument\n"
  | .invalidSubcommand => "error: unrecognized subcommand\n"

end QualityGate.Help
