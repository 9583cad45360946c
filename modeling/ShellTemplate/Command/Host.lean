import ShellTemplate.Command.Help
import ShellTemplate.Command.Machine
import ShellTemplate.Command.Request
import ShellTemplate.Template.Variables
import ShellTemplate.Text.LineEnds

/-!
# The command on a host

The command reads a template, expands it and puts the result in one place. Everything that can fail
is done before the file for the result is opened. What the command needs of its surroundings is left
open (`Host`).
-/

namespace ShellTemplate

namespace Command

/-- What the command gets from around it, the rules for its arguments and the environment, and what it
    can do there: read all of standard input, read the file at a path, give that file a content, and
    write on standard output or standard error. -/
structure Host (m : Type → Type) where
  rules : ArgumentRules
  environment : m Variables
  input : m Bytes
  open? : Text → m (Except FileError Bytes)
  replace? : Text → Bytes → m (Except FileError Unit)
  print : Bytes → m Unit
  complain : Bytes → m Unit

/-- The message that a file cannot be opened. -/
def fileMessage (path : Text) (e : FileError) : Text :=
  path ++ Text.ofString ": " ++ e.message

/-- The line that reports a remark. -/
def remarkLine (remark : Remark) : Text :=
  errorLine (Text.ofString "paramsubst.parser: " ++ remark.message)

/-- The file that a setting names; the empty name stands for none. -/
def namedFile? : Option Text → Option Text
  | some [] => none
  | setting => setting

/-- The text of a template that is read from a file. -/
def templateOfFile (content : Bytes) : Text :=
  (Text.decode content).unifyLineEnds

/-- The remarks as the settings want them reported. -/
def Settings.remarks (settings : Settings) (reading : Reading) : Text :=
  if settings.verbose then reading.remarks.flatMap remarkLine else []

/-- What the text of a template expands to, with the report of its remarks. -/
def Settings.expandText (settings : Settings) (environment : Variables) (text : Text) : Except Fault Text × Text :=
  let reading := Template.read text
  (reading.template.map (Template.render (settings.bindings environment).get?), settings.remarks reading)

namespace Host

section
variable {m : Type → Type} [Monad m] (host : Host m)

/-- Writes a text on standard error. -/
def report (text : Text) : m Unit :=
  host.complain text.escapeStrays.encode

/-- Gives a text as the result and ends. -/
def succeed (text : Text) : m Nat := do
  host.print text.encode
  pure 0

/-- Reports why the command cannot go on, and ends with a status. -/
def fail (status : Nat) (text : Text) : m Nat := do
  host.report text
  pure status

/-- The text of the template: the file to read with its line ends unified, or standard input as it
    is. -/
def template (settings : Settings) : m (Except Text Text) :=
  match namedFile? settings.input with
  | none => do
    let input ← host.input
    pure (.ok (Text.decode input))
  | some path => do
    match ← host.open? path with
    | .ok content => pure (.ok (templateOfFile content))
    | .error e => pure (.error (fileMessage path e))

/-- Puts the result into the file to write or on standard output. -/
def deliver (settings : Settings) (text : Text) : m Nat :=
  match namedFile? settings.output with
  | none => host.succeed text
  | some path => do
    match ← host.replace? path text.encode with
    | .ok () => pure 0
    | .error e => host.fail 1 (errorLine (fileMessage path e))

/-- Expands the text of a template and delivers the result. -/
def finish (settings : Settings) (text : Text) : m Nat := do
  let environment ← host.environment
  let (result, remarks) := settings.expandText environment text
  host.report remarks
  match result with
  | .ok result => host.deliver settings result
  | .error fault => host.fail 1 (errorLine fault.message)

/-- Reads a template, expands it and delivers the result. -/
def expand (settings : Settings) : m Nat := do
  match ← host.template settings with
  | .ok text => host.finish settings text
  | .error message => host.fail 1 (errorLine message)

/-- Does what the arguments ask for and gives the exit status. -/
def perform (arguments : List Text) : m Nat :=
  match Request.ofTexts arguments host.rules with
  | .error e => host.fail 2 e.report
  | .ok .help => host.succeed help
  | .ok (.expand settings) => host.expand settings

end

end Host

end Command

end ShellTemplate
