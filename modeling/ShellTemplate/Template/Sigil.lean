import ShellTemplate.Template.Basic
import ShellTemplate.Template.Fault
import ShellTemplate.Text.Decimal
import ShellTemplate.Text.Search

/-!
# Sigils

The one or two symbols after a variable name in braces that say which operator follows, and what
the payload between a sigil and the closing brace means.
-/

namespace ShellTemplate

/-- Operators that are given by a payload up to the closing brace: after `:` an offset and perhaps a
    length, after `/`, `//`, `/#` or `/%` a pattern and a replacement, and after `#`, `##`, `%` or
    `%%` a pattern. -/
inductive PayloadForm where
  | substring
  | replace (which : Occurrence)
  | remove (edge : Edge) (longest : Bool)
  deriving DecidableEq

/-- What may follow the name of a variable in braces: `^`, `^^`, `,` or `,,`, which take no payload,
    `=` or `:=` before a template, or a sigil before a payload. -/
inductive Sigil where
  | changeCase (letters : LetterCase) (extent : Extent)
  | default (trigger : Trigger)
  | payload (form : PayloadForm)
  deriving DecidableEq

namespace Sigil

/-- The symbols of a sigil. -/
def text : Sigil → Text
  | .changeCase .upper .all => [.char '^', .char '^']
  | .changeCase .upper .first => [.char '^']
  | .changeCase .lower .all => [.char ',', .char ',']
  | .changeCase .lower .first => [.char ',']
  | .default .unsetOrEmpty => [.char ':', .char '=']
  | .default .unset => [.char '=']
  | .payload .substring => [.char ':']
  | .payload (.replace .all) => [.char '/', .char '/']
  | .payload (.replace .leading) => [.char '/', .char '#']
  | .payload (.replace .trailing) => [.char '/', .char '%']
  | .payload (.replace .first) => [.char '/']
  | .payload (.remove .leading true) => [.char '#', .char '#']
  | .payload (.remove .leading false) => [.char '#']
  | .payload (.remove .trailing true) => [.char '%', .char '%']
  | .payload (.remove .trailing false) => [.char '%']

/-- The longest sigil that begins a text, and the text after it. -/
def read? : Text → Option (Sigil × Text)
  | .char '^' :: .char '^' :: rest => some (.changeCase .upper .all, rest)
  | .char '^' :: rest => some (.changeCase .upper .first, rest)
  | .char ',' :: .char ',' :: rest => some (.changeCase .lower .all, rest)
  | .char ',' :: rest => some (.changeCase .lower .first, rest)
  | .char ':' :: .char '=' :: rest => some (.default .unsetOrEmpty, rest)
  | .char ':' :: rest => some (.payload .substring, rest)
  | .char '=' :: rest => some (.default .unset, rest)
  | .char '/' :: .char '/' :: rest => some (.payload (.replace .all), rest)
  | .char '/' :: .char '#' :: rest => some (.payload (.replace .leading), rest)
  | .char '/' :: .char '%' :: rest => some (.payload (.replace .trailing), rest)
  | .char '/' :: rest => some (.payload (.replace .first), rest)
  | .char '#' :: .char '#' :: rest => some (.payload (.remove .leading true), rest)
  | .char '#' :: rest => some (.payload (.remove .leading false), rest)
  | .char '%' :: .char '%' :: rest => some (.payload (.remove .trailing true), rest)
  | .char '%' :: rest => some (.payload (.remove .trailing false), rest)
  | _ => none

/-- A sigil that is read is what the text begins with. -/
theorem eq_append_of_read? {input rest : Text} {sigil : Sigil} (read : read? input = some (sigil, rest)) :
    input = sigil.text ++ rest := by
  unfold read? at read
  split at read <;> cases read <;> rfl

end Sigil

namespace PayloadForm

/-- The substring that a payload asks for: an offset up to the first colon, and a length after it. -/
def readSubstring (payload : Text) : Except Defect Operator :=
  let (offsetText, lengthText?) :=
    match payload.cut? [.char ':'] with
    | some (before, after) => (before, some after)
    | none => (payload, none)
  match offsetText.toInt?, lengthText? with
  | none, _ => .error (.invalidOffset offsetText)
  | some offset, none => .ok (.substring offset none)
  | some offset, some lengthText =>
    match lengthText.toInt? with
    | none => .error (.invalidLength lengthText)
    | some length =>
      if length < 0 then .error (.negativeLength lengthText) else .ok (.substring offset (some length))

/-- The replacement that a payload asks for: a pattern up to the first slash, and what takes its
    place after it. Only where all occurrences are replaced may the slash be left out. -/
def readReplacement (which : Occurrence) (payload : Text) : Except Defect Operator :=
  match payload.cut? [.char '/'] with
  | some (pattern, replacement) => .ok (.replace which pattern replacement)
  | none => if which = .all then .ok (.replace which payload []) else .error .missingReplacement

/-- The operator of a form and its payload. -/
def operator (form : PayloadForm) (payload : Text) : Except Defect Operator :=
  match form with
  | .substring => readSubstring payload
  | .replace which => readReplacement which payload
  | .remove edge longest => .ok (.remove edge longest payload)

end PayloadForm

end ShellTemplate
