import ShellTemplate.Glob.Token

/-!
# What it means to match

A value matches a list of elements when it can be cut into pieces, one for each element in order: a
star takes any piece, and a test takes a piece of one symbol that passes.
-/

namespace ShellTemplate.Glob

variable {α : Type}

/-- Whether an element takes a piece of a value by itself. -/
def Element.Takes : Element α → List α → Prop
  | .star, _ => True
  | .one accepts, piece => ∃ s, piece = [s] ∧ accepts s = true

/-- Whether a token takes a piece of a value by itself: a bracket takes one symbol that is in the union
    of its items, or one that is in none of them if it is negated. -/
def Token.Takes : Token → Text → Prop
  | .star, _ => True
  | .any, piece => ∃ s, piece = [s]
  | .literal s, piece => piece = [s]
  | .bracket negated items, piece =>
    ∃ s, piece = [s] ∧ ((∃ item ∈ items, item.contains s = true) ↔ negated = false)

/-- The values that elements match, piece by piece: a star takes any piece, and a test one symbol. -/
inductive Matches : List (Element α) → List α → Prop where
  | nil : Matches [] []
  | star {elements : List (Element α)} {rest : List α} (piece : List α) (tail : Matches elements rest) :
      Matches (.star :: elements) (piece ++ rest)
  | one {accepts : α → Bool} {elements : List (Element α)} {s : α} {rest : List α} (passes : accepts s = true)
      (tail : Matches elements rest) : Matches (.one accepts :: elements) (s :: rest)

/-- Whether a test holds of a value or of one of its trailing parts. -/
def anyTail (test : List α → Bool) : List α → Bool
  | [] => test []
  | s :: rest => test (s :: rest) || anyTail test rest

/-- Whether elements match a value, by trying all pieces of every star. -/
def backtrack : List (Element α) → List α → Bool
  | [], value => value.isEmpty
  | .star :: elements, value => anyTail (backtrack elements) value
  | .one accepts :: elements, value =>
    match value with
    | [] => false
    | s :: rest => accepts s && backtrack elements rest

end ShellTemplate.Glob
