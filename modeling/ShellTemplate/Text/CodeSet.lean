import ShellTemplate.Text.Symbol

/-!
# Sets of character numbers

A set given by the rising list of the numbers at which membership changes: numbers below the
first are outside, those from the first up to the second are inside, and so on.
-/

namespace ShellTemplate

/-- A set of character numbers as the rising list of its edges, the numbers at which membership
    changes. -/
structure CodeSet where
  edges : List Nat

namespace CodeSet

/-- Membership, from the state `inside` before the first edge of the list. -/
def containsFrom (inside : Bool) : List Nat → Nat → Bool
  | [], _ => inside
  | edge :: edges, n => if n < edge then inside else containsFrom (!inside) edges n

/-- Whether a number lies in the set. -/
def contains (set : CodeSet) (n : Nat) : Bool :=
  containsFrom false set.edges n

end CodeSet

end ShellTemplate
