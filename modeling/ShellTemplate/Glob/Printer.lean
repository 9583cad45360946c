import ShellTemplate.Glob.Token

/-!
# Printing shell patterns

The text of tokens: every literal symbol escaped, and brackets with their items escaped too, the
upper ends of ranges apart.
-/

namespace ShellTemplate.Glob

/-- The text of an item in a bracket. -/
def Item.print : Item → Text
  | .symbol s => [.char '\\', s]
  | .range low high => [.char '\\', low, .char '-', high]
  | .named c => .char '[' :: .char ':' :: c.name ++ [.char ':', .char ']']

/-- Whether an item is printed to what is read as it: a `]` cannot be the upper end of a range. -/
def Item.isPrintable : Item → Bool
  | .range _ high => high != .char ']'
  | _ => true

/-- The text of a token. -/
def Token.print : Token → Text
  | .star => [.char '*']
  | .any => [.char '?']
  | .literal s => [.char '\\', s]
  | .bracket negated items =>
    .char '[' :: (if negated then [.char '!'] else []) ++ items.flatMap Item.print ++ [.char ']']

/-- Whether a token is printed to what is read as it: a bracket has at least one item. -/
def Token.isPrintable : Token → Bool
  | .bracket _ items => !items.isEmpty && items.all Item.isPrintable
  | _ => true

/-- The text of a pattern. -/
def printTokens (tokens : List Token) : Text :=
  tokens.flatMap Token.print

end ShellTemplate.Glob
