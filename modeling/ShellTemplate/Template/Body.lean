import ShellTemplate.Template.Scan

/-!
# Bodies of defaults

The body of a default by itself, as an attempt scans it: only where a closing brace comes after its beginning.
-/

namespace ShellTemplate.Template

/-- What comes of a body before a text, where `levels` more defaults may be nested in it. -/
def scanBody (levels : Nat) (text : Text) (position : Nat) (trace : Trace) : Scan × Trace :=
  if text.contains (.char '}') then scan (attempt levels true) true [] 0 text position trace else (.unterminated, trace)

/-- What comes of a body that begins at the offset `position` of a text and stands in `depth` defaults, with nothing known of
    the text before. -/
def bodyAt (text : Text) (depth position : Nat) : Scan :=
  (scanBody (maxNesting - depth) (text.drop position) position .empty).1

end ShellTemplate.Template
