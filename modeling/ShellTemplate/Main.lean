import ShellTemplate.Command.Host

/-!
# The command

Standard streams, files and the environment of this process as a host of the command.
-/

namespace ShellTemplate.Command

/-- The string of a path that has no stray bytes. -/
def pathString? (path : Text) : Option String :=
  let symbols := path.mapM fun
    | .char c => some c
    | .stray _ => none
  symbols.map String.ofList

/-- What the system says about a file. -/
def fileError : IO.Error → FileError
  | .noFileOrDirectory _ _ _ => .notFound
  | .invalidArgument _ _ _ => .nameTooLong
  | .inappropriateType _ code _ => if code = 21 then .isDirectory else .notDirectory
  | .permissionDenied _ _ _ => .permissionDenied
  | e => .other (Text.ofString (toString e))

/-- Writes bytes to a stream. -/
def put (stream : IO.FS.Stream) (bytes : Bytes) : IO Unit := do
  stream.write bytes.toByteArray
  stream.flush

/-- The variables of a block of definitions that end in a zero byte each. -/
def environmentOf (block : Bytes) : Variables :=
  (block.splitOn 0).filterMap fun entry => assignment? (Text.decode entry)

/-- The environment of this process; empty where the system does not show it. -/
def readEnvironment : IO Variables := do
  try
    return environmentOf (← IO.FS.readBinFile "/proc/self/environ").toList
  catch _ =>
    return []

/-- Performs an action on the file at a path. A path with stray bytes has no string, so it is refused
    before another file is taken for it. -/
def onFile {α : Type} (path : Text) (action : String → IO α) : IO (Except FileError α) := do
  match pathString? path with
  | none => return .error (.other (Text.ofString "Name has bytes that are no character"))
  | some path =>
    try
      return .ok (← action path)
    catch e =>
      return .error (fileError e)

/-- This process as a host. -/
def Host.process : Host IO where
  rules := .later
  environment := readEnvironment
  input := do
    return (← (← IO.getStdin).readBinToEnd).toList
  open? path := onFile path fun path => do
    return (← IO.FS.readBinFile path).toList
  replace? path content := onFile path fun path => IO.FS.writeBinFile path content.toByteArray
  print bytes := do
    put (← IO.getStdout) bytes
  complain bytes := do
    put (← IO.getStderr) bytes

/-- Does what the arguments ask for and gives the exit status. -/
def start (arguments : List Text) : IO UInt32 := do
  return .ofNat (← Host.process.perform arguments)

end ShellTemplate.Command

/-- The command. -/
def main (arguments : List String) : IO UInt32 :=
  ShellTemplate.Command.start (arguments.map ShellTemplate.Text.ofString)
