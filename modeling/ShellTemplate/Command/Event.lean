import ShellTemplate.Command.Argument

/-!
# Events

What the arguments do, one after the other. A parameter takes its value from its own argument or
from the next one.

What is attached to a switch is not read alike by all releases of the library that reads the
arguments. So the rules in question are left open (`ArgumentRules`).
-/

namespace ShellTemplate

namespace Command

/-- Rules on which releases differ. If `splitsClusters` holds, short switches whose letters stand
    together are read letter by letter: an equals sign sets apart the value of the letter before it,
    and from a letter that is no switch the rest is an argument that means nothing. So `-vo=F` names
    the file `F`, and `-hx` asks for help. Otherwise the equals sign belongs to the value, and the
    unknown letter is a mistake. If `keepsSeparator` holds, `--` can be attached as a value. -/
structure ArgumentRules where
  splitsClusters : Bool
  keepsSeparator : Bool
  deriving DecidableEq

namespace ArgumentRules

/-- The rules of the earlier releases. -/
def earlier : ArgumentRules :=
  ⟨false, false⟩

/-- The rules of the later releases. -/
def later : ArgumentRules :=
  ⟨true, true⟩

end ArgumentRules

/-- What a switch or a value does: a flag is set, a parameter takes a value, an argument means
    nothing, or the arguments are wrong here. -/
inductive Event where
  | flag (f : Flag)
  | parameter (p : Parameter) (value : Text)
  | extra (text : Text)
  | error (e : UsageError)
  deriving DecidableEq

namespace Event

/-- The events of a switch by itself. A parameter still lacks its value. -/
def ofBare : Switch → List Event × Option Parameter
  | .flag f => ([.flag f], none)
  | .parameter p => ([], some p)

/-- The value of a parameter with a text attached to it. A separator that is not kept names no file;
    as a definition it stays and defines nothing. -/
def attachedValue (rules : ArgumentRules) : Parameter → Text → Text
  | .set, text => text
  | _, text => if !rules.keepsSeparator && text = Argument.separatorText then [] else text

/-- The events of a switch with a text attached to it. After a short flag the text begins with the
    letter of another short switch, to which the rest is attached. The parameter, if there is one,
    ends the argument and still lacks its value. -/
def ofAttached (rules : ArgumentRules) (isShort : Bool) :
    Switch → (afterEquals : Bool) → Text → Except UsageError (List Event × Option Parameter)
  | .parameter p, _, text => .ok ([.parameter p (attachedValue rules p text)], none)
  | .flag f, _, [] => .error (.unexpectedValue f [])
  | .flag f, afterEquals, s :: rest =>
    if !isShort || rules.splitsClusters && (afterEquals || s = .char '-') then
      .error (.unexpectedValue f (s :: rest))
    else
      match Switch.ofShort? [.char '-', s], rest with
      | none, rest =>
        if rules.splitsClusters then .ok ([.flag f, .extra (.char '-' :: s :: rest)], none)
        else .error (.unexpectedValue f (s :: rest))
      | some switch, [] => .ok (add f (ofBare switch))
      | some switch, t :: rest =>
        if rules.splitsClusters && t = .char '=' then (ofAttached rules isShort switch true rest).map (add f)
        else (ofAttached rules isShort switch false (t :: rest)).map (add f)
where
  /-- Puts a flag in front. -/
  add (f : Flag) : List Event × Option Parameter → List Event × Option Parameter
    | (events, pending) => (.flag f :: events, pending)

/-- The events of a switch and of the text attached to it, if there is one. -/
def ofSwitch (rules : ArgumentRules) (isShort : Bool) (switch : Switch) :
    Option Attachment → Except UsageError (List Event × Option Parameter)
  | none => .ok (ofBare switch)
  | some attached => ofAttached rules isShort switch attached.afterEquals attached.text

/-- The events of the arguments, up to the first error. -/
def ofArguments (rules : ArgumentRules) : List Argument → List Event
  | [] => []
  | .plain text :: rest => .extra text :: ofArguments rules rest
  | .separator :: rest => .extra Argument.separatorText :: ofArguments rules rest
  | .unknown text :: rest => .extra text :: ofArguments rules rest
  | .ambiguous text switches :: _ => [.error (.ambiguous text switches)]
  | .use switch isShort attached :: rest =>
    match ofSwitch rules isShort switch attached, rest with
    | .error e, _ => [.error e]
    | .ok (events, none), rest => events ++ ofArguments rules rest
    | .ok (events, some p), .plain value :: rest => events ++ .parameter p value :: ofArguments rules rest
    | .ok (_, some p), _ => [.error (.missingValue p)]

end Event

end Command

end ShellTemplate
