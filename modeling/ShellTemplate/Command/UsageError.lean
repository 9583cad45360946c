import ShellTemplate.Command.Switch
import ShellTemplate.Text.Quoted

/-!
# Usage errors

What can be wrong with the arguments of the command, and the wording of it.
-/

namespace ShellTemplate

namespace Command

/-- What is wrong with the arguments: some mean nothing, a parameter has no value, a definition has
    no equals sign or no name before it, a flag has a value, or an abbreviation stands for several
    switches. -/
inductive UsageError where
  | unrecognized (arguments : List Text)
  | missingValue (parameter : Parameter)
  | invalidAssignment (argument : Text)
  | unexpectedValue (flag : Flag) (value : Text)
  | ambiguous (argument : Text) (switches : List Switch)
  deriving DecidableEq

/-- Why an argument defines no variable. -/
def assignmentMessage (argument : Text) : Text :=
  Text.ofString "expected NAME=VALUE, got " ++ argument.quoted

/-- A message about a switch. -/
def switchMessage (switch : Switch) (message : Text) : Text :=
  Text.ofString "argument " ++ switch.label ++ Text.ofString ": " ++ message

namespace UsageError

/-- The wording of a usage error. -/
def message : UsageError → Text
  | .unrecognized arguments =>
    Text.ofString "unrecognized arguments: " ++ List.intercalate [.char ' '] arguments
  | .missingValue parameter =>
    switchMessage (.parameter parameter) (Text.ofString "expected one argument")
  | .invalidAssignment argument =>
    switchMessage (.parameter .set) (assignmentMessage argument)
  | .unexpectedValue flag value =>
    switchMessage (.flag flag) (Text.ofString "ignored explicit argument " ++ value.quoted)
  | .ambiguous argument switches =>
    Text.ofString "ambiguous option: " ++ argument ++ Text.ofString " could match " ++
      List.intercalate (Text.ofString ", ") (switches.map Switch.long)

end UsageError

end Command

end ShellTemplate
