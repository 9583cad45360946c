import ShellTemplate.Command.UsageError
import ShellTemplate.Text.DecimalDigit
import ShellTemplate.Text.Search

/-!
# Arguments of the command

What each argument is by itself: a switch, perhaps with a text attached to it, or a value. An
argument that begins with a dash is a value if it looks like a negative number or has a space in it.
-/

namespace ShellTemplate

namespace Command

/-- A text that is attached to a switch, and whether an equals sign stands between the two. -/
structure Attachment where
  afterEquals : Bool
  text : Text
  deriving DecidableEq

/-- An argument by itself: a value, the separator `--` after which every argument is a value, a switch in its
    short or its long spelling with what is attached to it, what looks like a switch and is none, or an
    abbreviation of several switches. -/
inductive Argument where
  | plain (text : Text)
  | separator
  | use (switch : Switch) (isShort : Bool) (attached : Option Attachment)
  | unknown (text : Text)
  | ambiguous (text : Text) (switches : List Switch)
  deriving DecidableEq

namespace Argument

/-- The text of the separator. -/
def separatorText : Text :=
  Text.ofString "--"

/-- Whether a text is a dash and a decimal number, which may begin with its point but not end with
    it. One line feed may follow. -/
def looksNegative : Text → Bool
  | .char '-' :: number =>
    let number := if number.getLast? = some (.char '\n') then number.dropLast else number
    let whole := number.takeWhile Symbol.isDecimalDigit
    match number.dropWhile Symbol.isDecimalDigit with
    | [] => !whole.isEmpty
    | .char '.' :: fraction => !fraction.isEmpty && fraction.all Symbol.isDecimalDigit
    | _ => false
  | _ => false

/-- The switch that is spelt by a text, and whether the spelling is short. -/
def spelt? (text : Text) : Option (Switch × Bool) :=
  match Switch.ofLong? text with
  | some switch => some (switch, false)
  | none => (Switch.ofShort? text).map fun switch => (switch, true)

/-- An argument that begins with a dash and spells no switch. -/
def ofUnknown (text : Text) : Argument :=
  if looksNegative text || text.contains (.char ' ') then .plain text else .unknown text

/-- An argument that begins with two dashes: a switch if it abbreviates only one. -/
def ofLong (text : Text) : Argument :=
  let (stem, attached) :=
    match text.cut? [.char '='] with
    | some (stem, value) => (stem, some ⟨true, value⟩)
    | none => (text, none)
  match Switch.longStartingWith stem with
  | [] => ofUnknown text
  | [switch] => .use switch false attached
  | switches => .ambiguous text switches

/-- An argument that begins with one dash and more: a short switch if it begins with one. -/
def ofShort (text : Text) : Argument :=
  match Switch.ofShort? (text.take 2) with
  | some switch => .use switch true (some ⟨false, text.drop 2⟩)
  | none => ofUnknown text

/-- An argument that begins with a dash and spells no switch, with what may follow an equals sign. -/
def ofSpelling (text : Text) : Argument :=
  match (text.cut? [.char '=']).bind fun (before, after) => (spelt? before).map fun found => (found, after) with
  | some ((switch, isShort), after) => .use switch isShort (some ⟨true, after⟩)
  | none => if separatorText.isPrefixOf text then ofLong text else ofShort text

/-- What an argument is by itself. -/
def ofText (text : Text) : Argument :=
  match text with
  | [] => .plain text
  | [_] => .plain text
  | .char '-' :: _ =>
    match spelt? text with
    | some (switch, isShort) => .use switch isShort none
    | none => ofSpelling text
  | _ => .plain text

/-- What the arguments are, in order. -/
def ofTexts : List Text → List Argument
  | [] => []
  | text :: rest =>
    if text = separatorText then .separator :: rest.map .plain else ofText text :: ofTexts rest

end Argument

end Command

end ShellTemplate
