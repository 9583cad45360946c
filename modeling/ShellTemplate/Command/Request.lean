import ShellTemplate.Command.Event
import ShellTemplate.Command.Settings

/-!
# Requests

What the arguments ask for. Switches act in the order in which they stand: help is given as soon as
it is asked for, and the first error ends the run. Arguments that mean nothing are reported when all
others have acted.
-/

namespace ShellTemplate

namespace Command

/-- What the command is asked to do: to give the help text, or to expand a template. -/
inductive Request where
  | help
  | expand (settings : Settings)
  deriving DecidableEq

namespace Request

/-- Lets the events act on the settings; `extras` are the arguments so far that mean nothing, in
    reverse. -/
def ofEvents (settings : Settings) (extras : List Text) : List Event → Except UsageError Request
  | [] => if extras.isEmpty then .ok (.expand settings) else .error (.unrecognized extras.reverse)
  | .flag .help :: _ => .ok .help
  | .flag .noEnviron :: rest => ofEvents { settings with noEnviron := true } extras rest
  | .flag .verbose :: rest => ofEvents { settings with verbose := true } extras rest
  | .parameter .input value :: rest => ofEvents { settings with input := some value } extras rest
  | .parameter .output value :: rest => ofEvents { settings with output := some value } extras rest
  | .parameter .set value :: rest =>
    match assignment? value with
    | some pair => ofEvents { settings with assignments := settings.assignments ++ [pair] } extras rest
    | none => .error (.invalidAssignment value)
  | .extra text :: rest => ofEvents settings (text :: extras) rest
  | .error e :: _ => .error e

/-- The first argument that abbreviates several switches; it is reported before anything is done. -/
def ambiguity? (arguments : List Argument) : Option UsageError :=
  arguments.findSome? fun
    | .ambiguous text switches => some (.ambiguous text switches)
    | _ => none

/-- What the arguments ask for, by the earlier rules if no others are given. -/
def ofTexts (arguments : List Text) (rules : ArgumentRules := .earlier) : Except UsageError Request :=
  let arguments := Argument.ofTexts arguments
  match ambiguity? arguments with
  | some e => .error e
  | none => ofEvents .initial [] (Event.ofArguments rules arguments)

end Request

end Command

end ShellTemplate
