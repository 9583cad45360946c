import ShellTemplate.Text.Symbol

/-!
# Switches of the command

The switches that the command knows and how each is spelt. A flag stands alone, and a parameter
takes a value.
-/

namespace ShellTemplate.Command

/-- Switches that stand alone: they ask for the help text, leave the environment out, or ask for
    remarks on what was read. -/
inductive Flag where
  | help
  | noEnviron
  | verbose
  deriving DecidableEq

/-- Switches that take a value: the file to read, the file to write, or the definition of a
    variable. -/
inductive Parameter where
  | input
  | output
  | set
  deriving DecidableEq

/-- Switches that stand alone or take a value. -/
inductive Switch where
  | flag (f : Flag)
  | parameter (p : Parameter)
  deriving DecidableEq

namespace Switch

/-- All switches in the order of the help text. -/
def all : List Switch :=
  [.flag .help, .parameter .input, .parameter .output, .parameter .set, .flag .noEnviron, .flag .verbose]

/-- The short spelling, if there is one. -/
def short? : Switch → Option Text
  | .flag .help => some (Text.ofString "-h")
  | .flag .noEnviron => none
  | .flag .verbose => some (Text.ofString "-v")
  | .parameter .input => some (Text.ofString "-i")
  | .parameter .output => some (Text.ofString "-o")
  | .parameter .set => some (Text.ofString "-s")

/-- The long spelling. -/
def long : Switch → Text
  | .flag .help => Text.ofString "--help"
  | .flag .noEnviron => Text.ofString "--no-environ"
  | .flag .verbose => Text.ofString "--verbose"
  | .parameter .input => Text.ofString "--input"
  | .parameter .output => Text.ofString "--output"
  | .parameter .set => Text.ofString "--set"

/-- Both spellings, as messages name a switch. -/
def label (switch : Switch) : Text :=
  match switch.short? with
  | some short => short ++ .char '/' :: switch.long
  | none => switch.long

/-- The switch with a short spelling. -/
def ofShort? (spelling : Text) : Option Switch :=
  all.find? fun switch => switch.short? = some spelling

/-- The switch with a long spelling. -/
def ofLong? (spelling : Text) : Option Switch :=
  all.find? fun switch => switch.long = spelling

/-- The switches whose long spelling begins with a text. -/
def longStartingWith (stem : Text) : List Switch :=
  all.filter fun switch => stem.isPrefixOf switch.long

end Switch

end ShellTemplate.Command
