import ShellTemplate.Template.Sigil

/-!
# Canonical templates

The templates that reading gives: literals are as long as they can be, and every expression is one
that some text stands for.
-/

namespace ShellTemplate

/-- Whether a text is a variable name: an ASCII letter or underscore, then letters, digits and
    underscores. -/
def Text.isName : Text → Bool
  | [] => false
  | s :: rest => s.startsName && rest.all Symbol.continuesName

namespace Operator

/-- Whether an integer has no more digits than may be read. -/
def isReadable (n : Int) : Bool :=
  n.natAbs < Nat.pow 10 Text.maxDigits

/-- Whether a text can be part of a payload. -/
def isInner (text : Text) : Bool :=
  !text.contains (.char '}')

/-- Whether some expression reads as the operator. -/
def isCanonical : Operator → Bool
  | .value => true
  | .length => true
  | .changeCase _ _ => true
  | .substring offset none => isReadable offset
  | .substring offset (some count) => isReadable offset && isReadable count && 0 ≤ count
  | .replace which pattern replacement =>
    isInner pattern && isInner replacement && !pattern.contains (.char '/') &&
      (which != .first || startsPlainly pattern)
  | .remove edge longest pattern =>
    isInner pattern &&
      (longest || pattern.head? != some (match edge with | .leading => .char '#' | .trailing => .char '%'))
where
  /-- Whether a pattern after a slash does not make a longer sigil of it. -/
  startsPlainly (pattern : Text) : Bool :=
    !pattern.isEmpty && pattern.head? != some (.char '#') && pattern.head? != some (.char '%')

end Operator

/-- Whether a node may stand before others: a literal is followed by no literal, and by an
    expression only if it does not end in a backslash. -/
def Node.mayPrecede (node : Node) (rest : List Node) : Bool :=
  match node, rest with
  | .literal _, .literal _ :: _ => false
  | .literal text, _ :: _ => text.getLast? != some (.char '\\')
  | _, _ => true

mutual

/-- Whether a node is canonical where `levels` defaults may be nested, in a body or outside. -/
def Node.isCanonical (levels : Nat) (inBody : Bool) : Node → Bool
  | .literal text => !text.isEmpty && !(inBody && text.contains (.char '}'))
  | .expression name operator => 0 < levels && name.isName && operator.isCanonical
  | .default name _ body => 0 < levels && name.isName && Template.isCanonical (levels - 1) true body

/-- Whether a template is canonical where `levels` defaults may be nested, in a body or outside. -/
def Template.isCanonical (levels : Nat) (inBody : Bool) : List Node → Bool
  | [] => true
  | node :: rest =>
    node.isCanonical levels inBody && node.mayPrecede rest && Template.isCanonical levels inBody rest

end

end ShellTemplate
