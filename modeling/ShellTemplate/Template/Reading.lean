import ShellTemplate.Template.Scan

/-!
# The template of a text

Reading a text gives a template or a fault, and the remarks made on the way.
-/

namespace ShellTemplate

/-- What comes of reading a text: its pieces, or its first fault, and the remarks in the order in
    which they were made. -/
structure Reading where
  pieces : Except Fault (List Piece)
  remarks : List Remark

namespace Reading

/-- Reads a text in which `levels` defaults may be nested. A scan that never ends would leave the
    text as it is, but the scan of a whole text always ends. -/
def ofText (levels : Nat) (text : Text) : Reading :=
  let (result, trace) := Template.scanAll levels text
  { pieces :=
      match result with
      | .closed pieces _ => .ok pieces
      | .unterminated => .ok (text.map .symbol)
      | .malformed fault => .error fault
    remarks := trace.remarks.reverse }

/-- The template of the pieces, or the fault. -/
def template (reading : Reading) : Except Fault Template :=
  reading.pieces.map Template.ofPieces

/-- Whether no remark is on an expression that the end of the text cuts off. -/
def isClosed (reading : Reading) : Bool :=
  reading.remarks.all fun remark => match remark with | .noExpression _ => true | .unterminated _ => false

end Reading

namespace Template

/-- Reads a text. -/
def read (text : Text) : Reading :=
  .ofText maxNesting text

/-- The template of a text, or its first fault. -/
def parse (text : Text) : Except Fault Template :=
  (read text).template

end Template

end ShellTemplate
