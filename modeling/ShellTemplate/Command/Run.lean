import ShellTemplate.Command.Host

/-!
# Runs of the command

The command on a machine: a run over its files, and runs one after the other.
-/

namespace ShellTemplate

namespace Command

/-- What a run is started with: the arguments after the name of the command, what stands on standard
    input, and the environment. -/
structure Invocation where
  arguments : List Text
  input : Bytes
  environment : Variables

/-- What a run has done so far: what was written on standard output and on standard error, and the
    files as they are now. -/
structure Effects where
  output : Bytes
  errors : Bytes
  files : Files

/-- What a run ends with: its effects and the exit status. -/
structure Outcome extends Effects where
  status : Nat

/-- The host of a run on a system. -/
def Host.ofSystem (system : System) (invocation : Invocation) : Host (StateM Effects) where
  rules := system.rules
  environment := pure invocation.environment
  input := pure invocation.input
  open? path := do
    let effects ← get
    pure (system.open? effects.files path)
  replace? path content := do
    let effects ← get
    match system.replace? effects.files path content with
    | .error e => pure (.error e)
    | .ok files =>
      set { effects with files }
      pure (.ok ())
  print bytes := modify fun effects => { effects with output := effects.output ++ bytes }
  complain bytes := modify fun effects => { effects with errors := effects.errors ++ bytes }

/-- What a command ends with that is carried out over files. -/
def Outcome.ofCommand (command : StateM Effects Nat) (files : Files) : Outcome :=
  let (status, effects) := command.run ⟨[], [], files⟩
  { effects with status }

/-- A run on a machine. -/
def run (machine : Machine) (invocation : Invocation) : Outcome :=
  .ofCommand ((Host.ofSystem machine.toSystem invocation).perform invocation.arguments) machine.files

/-- The runs one after the other, each over the files that the one before it left. -/
def runAll (machine : Machine) : List Invocation → List Outcome
  | [] => []
  | invocation :: rest =>
    let outcome := run machine invocation
    outcome :: runAll { machine with files := outcome.files } rest

end Command

end ShellTemplate
