import ShellTemplate.Glob.Pattern
import ShellTemplate.Template.Basic
import ShellTemplate.Text.Case
import ShellTemplate.Text.Search

/-!
# What operators do to values

Every operator is a function of the value of its variable, where an unset variable counts as an
empty one.
-/

namespace ShellTemplate

namespace Text

/-- The part of a value from an offset on, of the given length or up to the end. A negative offset
    counts from the end. Offset and end are clamped to the value; an end before its beginning
    counts from the end of the value. -/
def slice (value : Text) (offset : Int) (length : Option Int) : Text :=
  let size : Int := value.length
  let start := if 0 ≤ offset then offset else max (size + offset) 0
  if size ≤ start then []
  else
    let stop :=
      match length with
      | none => size
      | some length => min (start + length) size
    let stop := if stop < 0 then max (size + stop) 0 else stop
    (value.take stop.toNat).drop start.toNat

/-- Changes the case of a whole text, or of its first symbol by itself. -/
def changeCase (value : Text) (letters : LetterCase) (extent : Extent) : Text :=
  match extent with
  | .all => whole letters value
  | .first => whole letters (value.take 1) ++ value.drop 1
where
  /-- The case of a text as a whole. -/
  whole : LetterCase → Text → Text
    | .upper => upper
    | .lower => lower

end Text

/-- The value of an expression from the value of its variable. -/
def Operator.apply (operator : Operator) (value : Text) : Text :=
  match operator with
  | .value => value
  | .length => Text.ofNat value.length
  | .changeCase letters extent => value.changeCase letters extent
  | .substring offset count => value.slice offset count
  | .replace .first pattern replacement => value.replaceFirst pattern replacement
  | .replace .all pattern replacement => value.replaceAll pattern replacement
  | .replace .leading pattern replacement => value.replaceLeading pattern replacement
  | .replace .trailing pattern replacement => value.replaceTrailing pattern replacement
  | .remove .leading longest pattern => value.removeLeading pattern longest
  | .remove .trailing longest pattern => value.removeTrailing pattern longest

end ShellTemplate
