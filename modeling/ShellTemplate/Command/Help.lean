import ShellTemplate.Command.UsageError

/-!
# Help and usage texts

What the command says about itself, and how a usage error is reported.
-/

namespace ShellTemplate

namespace Command

/-- The name of the command in its messages. -/
def commandName : Text :=
  Text.ofString "paramsubst"

/-- The line that sums up the arguments. -/
def usage : Text :=
  Text.ofString "usage: paramsubst [-h] [-i FILE] [-o FILE] [-s NAME=VALUE] [--no-environ] [-v]\n"

/-- The lines of the help text after the usage. -/
def helpLines : List Text :=
  [ "",
    "Expand $VAR and $\x7bVAR...\x7d expressions using environment variables.",
    "",
    "options:",
    "  -h, --help            show this help message and exit",
    "  -i FILE, --input FILE",
    "                        read the template from FILE (default: stdin)",
    "  -o FILE, --output FILE",
    "                        write the result to FILE (default: stdout)",
    "  -s NAME=VALUE, --set NAME=VALUE",
    "                        define a variable, overriding the environment",
    "                        (repeatable)",
    "  --no-environ          ignore the process environment; only --set variables",
    "                        are defined",
    "  -v, --verbose         log parser decisions to stderr" ].map Text.ofString

/-- The help text. -/
def help : Text :=
  usage ++ helpLines.flatMap fun line => line ++ [.char '\n']

/-- A message under the name of the command, as a line. -/
def errorLine (message : Text) : Text :=
  commandName ++ Text.ofString ": " ++ message ++ [.char '\n']

/-- The report of a usage error. -/
def UsageError.report (e : UsageError) : Text :=
  usage ++ errorLine (Text.ofString "error: " ++ e.message)

end Command

end ShellTemplate
