import ShellTemplate.Template.Reading

/-!
# Plain reading

What reading means, said without anything kept from one attempt for the next: every `$` is tried
afresh wherever it is met, and that an expression never ends shows only at the end of the text.
-/

namespace ShellTemplate

namespace Plain

/-- Scans a text at the offset `position`, past the next `skip` symbols, which belong to the last
    piece. A body (`inBody`) is over at its brace, any other text at its end. -/
def scan (attempt : Nat → Text → Attempt) (inBody : Bool) : (skip : Nat) → Text → (position : Nat) → Scan
  | _, [], position => if inBody then .unterminated else .closed [] position
  | skip + 1, _ :: rest, position => scan attempt inBody skip rest (position + 1)
  | 0, s :: rest, position =>
    if s = .char '}' && inBody then .closed [] position
    else if s = .char '\\' && rest.head? = some (.char '$') then
      (scan attempt inBody 1 rest (position + 1)).prepend [.escapedDollar]
    else if s = .char '$' then
      match attempt position rest with
      | .found node size starts =>
        (scan attempt inBody size rest (position + 1)).prepend [.expression node (size + 1) starts]
      | .kept => (scan attempt inBody 0 rest (position + 1)).prepend [.symbol s]
      | .unterminated =>
        if inBody then .unterminated else (scan attempt inBody 0 rest (position + 1)).prepend [.symbol s]
      | .malformed fault => .malformed fault
    else (scan attempt inBody 0 rest (position + 1)).prepend [.symbol s]

/-- Tries the expression at the `$` of an offset, where `levels` more defaults may be nested. -/
def attempt : (levels : Nat) → (position : Nat) → (after : Text) → Attempt
  | 0, _, _ => .kept
  | levels + 1, position, after =>
    match Opening.read after with
    | .absent => .kept
    | .unterminated => .unterminated
    | .malformed defect size => .malformed ⟨defect, .char '$' :: after.take size, position⟩
    | .complete name operator size => .found (.expression name operator) size [position]
    | .default name trigger size =>
      match scan (attempt levels) true 0 (after.drop size) (position + 1 + size) with
      | .closed pieces stop =>
        .found (.default name trigger (Template.ofPieces pieces)) (stop - position)
          (position :: pieces.flatMap Piece.starts)
      | .unterminated => .unterminated
      | .malformed fault => .malformed fault

/-- Scans a whole text, in which `levels` defaults may be nested. -/
def scanAll (levels : Nat) (text : Text) : Scan :=
  scan (attempt levels) false 0 text 0

/-- The template of a text, or its first fault. -/
def parse (text : Text) : Except Fault Template :=
  match scanAll Template.maxNesting text with
  | .closed pieces _ => .ok (Template.ofPieces pieces)
  | .unterminated => .ok (Template.ofPieces (text.map .symbol))
  | .malformed fault => .error fault

end Plain

end ShellTemplate
