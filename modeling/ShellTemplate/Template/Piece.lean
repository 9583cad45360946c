import ShellTemplate.Template.Basic

/-!
# Pieces of a template text

The text of a template cut into symbols that stay as they are, escaped dollar signs, and
expressions. The template of a text is put together from its pieces: neighbouring symbols become
one literal.
-/

namespace ShellTemplate

/-- A part of the text of a template: a symbol that stands for itself; a backslash and a dollar
    sign, which stand for the dollar sign; or an expression of `size` symbols, where `starts` are
    the offsets of the dollar signs of this expression and of those in its body. -/
inductive Piece where
  | symbol (s : Symbol)
  | escapedDollar
  | expression (node : Node) (size : Nat) (starts : List Nat)

namespace Piece

/-- The number of symbols of a piece in the text. -/
def size : Piece → Nat
  | .symbol _ => 1
  | .escapedDollar => 2
  | .expression _ size _ => size

/-- The offsets of the expressions in a piece. -/
def starts : Piece → List Nat
  | .symbol _ => []
  | .escapedDollar => []
  | .expression _ _ starts => starts

end Piece

namespace Template

/-- A template with one more symbol in front, which joins a literal there. -/
def consSymbol (s : Symbol) : Template → Template
  | .literal text :: rest => .literal (s :: text) :: rest
  | rest => .literal [s] :: rest

/-- A template with one more piece in front. -/
def consPiece : Piece → Template → Template
  | .symbol s, template => consSymbol s template
  | .escapedDollar, template => consSymbol (.char '$') template
  | .expression node _ _, template => node :: template

/-- The template that pieces form. -/
def ofPieces (pieces : List Piece) : Template :=
  pieces.foldr consPiece []

end Template

end ShellTemplate
