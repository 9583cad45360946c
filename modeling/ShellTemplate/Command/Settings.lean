import ShellTemplate.Template.Variables

/-!
# Settings of a run

What a run is asked for: where the template comes from, where the result goes, and which variables
it is expanded with.
-/

namespace ShellTemplate

namespace Command

/-- The variable and the value of a definition: what stands before and after its first equals sign,
    if there is one and a name before it. -/
def assignment? (argument : Text) : Option (Text × Text) :=
  match argument.cut? [.char '='] with
  | some ([], _) => none
  | some (name, value) => some (name, value)
  | none => none

/-- What a run is asked for: the file to read and the file to write, where they are given, the
    variables defined, in order, whether the environment is left out, and whether remarks are
    wanted. -/
structure Settings where
  input : Option Text
  output : Option Text
  assignments : List (Text × Text)
  noEnviron : Bool
  verbose : Bool
  deriving DecidableEq

namespace Settings

/-- What no arguments ask for. -/
def initial : Settings :=
  ⟨none, none, [], false, false⟩

/-- The variables of a run: the environment, overlaid by the definitions from the first to the
    last. -/
def bindings (settings : Settings) (environment : Variables) : Variables :=
  settings.assignments.foldl (fun bindings pair => bindings.define pair.1 pair.2)
    (if settings.noEnviron then [] else environment)

end Settings

end Command

end ShellTemplate
