/-!
# Matching by reachable positions

A pattern as a list of elements, each a star or a test of one symbol. One pass over the elements
keeps the table of all positions of a value that the elements so far can reach, so that the work
is the product of the two lengths whatever the pattern is.
-/

namespace ShellTemplate.Glob

/-- An element of a pattern over symbols of any kind: a star takes any symbols or none, and any
    other element takes one symbol that passes its test. -/
inductive Element (α : Type) where
  | star
  | one (accepts : α → Bool)

namespace Element

variable {α : Type}

/-- Whether an element is a star. -/
def isStar : Element α → Bool
  | .star => true
  | .one _ => false

/-- Marks every entry that a marked one precedes; `seen` tells whether one came before the list. -/
def spread (seen : Bool) : List Bool → List Bool
  | [] => []
  | entry :: table => (seen || entry) :: spread (seen || entry) table

/-- Moves each mark to the next position where the symbol between them passes the test. -/
def shift (accepts : α → Bool) (value : List α) (table : List Bool) : List Bool :=
  false :: List.zipWith (fun s entry => entry && accepts s) value table

/-- The positions reached by an element from those that are marked. -/
def advance (value : List α) (table : List Bool) : Element α → List Bool
  | .star => spread false table
  | .one accepts => shift accepts value table

/-- The positions of a value that the elements can reach from its beginning: entry `k` is marked
    when they match the first `k` symbols. -/
def reachable (elements : List (Element α)) (value : List α) : List Bool :=
  elements.foldl (advance value) (true :: value.map fun _ => false)

/-- Whether the elements match the whole value. -/
def matchAll (elements : List (Element α)) (value : List α) : Bool :=
  (reachable elements value).getLastD false

/-- The sizes of the leading parts of a value that the elements match, in rising order. -/
def leadingSizes (elements : List (Element α)) (value : List α) : List Nat :=
  ((reachable elements value).zipIdx.filter (·.1)).map (·.2)

/-- The size of the shortest or the longest leading part that the elements match. -/
def leadingSize? (longest : Bool) (elements : List (Element α)) (value : List α) : Option Nat :=
  if longest then (leadingSizes elements value).getLast? else (leadingSizes elements value).head?

/-- Joins neighbouring stars into one. -/
def collapse : List (Element α) → List (Element α)
  | [] => []
  | element :: rest =>
    if element.isStar && rest.head?.any isStar then collapse rest else element :: collapse rest

end Element

end ShellTemplate.Glob
