import ShellTemplate.Text.Symbol

/-!
# Faults of expressions

An expression that is closed and has a known operator can still carry a payload that the operator
cannot use. Such a fault stops the reading of the whole template.
-/

namespace ShellTemplate

/-- What is wrong with the payload of an operator: the offset or the length of a substring is no
    number, the length is below zero, or a pattern comes without a replacement. -/
inductive Defect where
  | invalidOffset (text : Text)
  | invalidLength (text : Text)
  | negativeLength (text : Text)
  | missingReplacement
  deriving DecidableEq

/-- An expression with a defect: the whole expression, from its `$` to its closing brace, and the
    offset of the `$` in the template. -/
structure Fault where
  defect : Defect
  fragment : Text
  position : Nat
  deriving DecidableEq

/-- The wording of a defect. -/
def Defect.reason : Defect → Text
  | .invalidOffset text => Text.ofString "invalid substring offset `" ++ text ++ Text.ofString "'"
  | .invalidLength text => Text.ofString "invalid substring length `" ++ text ++ Text.ofString "'"
  | .negativeLength text => Text.ofString "substring length `" ++ text ++ Text.ofString "' is negative"
  | .missingReplacement => Text.ofString "missing `/replacement'"

/-- The wording of a fault. -/
def Fault.message (fault : Fault) : Text :=
  Text.ofString "bad substitution: `" ++ fault.fragment ++ Text.ofString "': " ++ fault.defect.reason

end ShellTemplate
