import ShellTemplate.Text.Symbol

/-!
# Line ends

A line may end in a carriage return, in a line feed, or in both.
-/

namespace ShellTemplate.Text

/-- Turns every line end of a text into a line feed, after `done`, the part already turned, in
    reverse. -/
def unifyLineEndsOnto (done : Text) : Text → Text
  | [] => done.reverse
  | .char '\r' :: .char '\n' :: rest => unifyLineEndsOnto (.char '\n' :: done) rest
  | s :: rest => unifyLineEndsOnto ((if s = .char '\r' then .char '\n' else s) :: done) rest

/-- A text whose line ends are all line feeds. -/
def unifyLineEnds (text : Text) : Text :=
  unifyLineEndsOnto [] text

end ShellTemplate.Text
