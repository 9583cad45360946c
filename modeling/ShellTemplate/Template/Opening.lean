import ShellTemplate.Template.Sigil

/-!
# What a dollar sign begins

The expression that the symbols after a `$` form, as far as it can be told without reading the
template inside a default. It depends on nothing but those symbols.
-/

namespace ShellTemplate

/-- The variable name that begins a text; empty where none does. -/
def Text.leadingName : Text → Text
  | [] => []
  | s :: rest => if s.startsName then (s :: rest).takeWhile Symbol.continuesName else []

/-- What follows a `$`: no expression, one that the end of the text cuts off, a closed one with a
    defect or without, or the beginning of a default, up to where its body starts. Every `size`
    counts the symbols that belong to the expression, the `$` excluded. -/
inductive Opening where
  | absent
  | unterminated
  | malformed (defect : Defect) (size : Nat)
  | complete (name : Text) (operator : Operator) (size : Nat)
  | default (name : Text) (trigger : Trigger) (size : Nat)
  deriving DecidableEq

namespace Opening

/-- An expression in braces after its name and a sigil; `size` counts the symbols up to here. -/
def ofSigil (name : Text) (sigil : Sigil) (size : Nat) (rest : Text) : Opening :=
  match sigil with
  | .changeCase letters extent =>
    match rest with
    | [] => .unterminated
    | .char '}' :: _ => .complete name (.changeCase letters extent) (size + 1)
    | _ => .absent
  | .default trigger => .default name trigger size
  | .payload form =>
    match rest.cut? [.char '}'] with
    | none => .unterminated
    | some (payload, _) =>
      match form.operator payload with
      | .error defect => .malformed defect (size + payload.length + 1)
      | .ok operator => .complete name operator (size + payload.length + 1)

/-- An expression in braces after its name; `size` counts the symbols up to here. -/
def afterName (name : Text) (size : Nat) (rest : Text) : Opening :=
  match rest with
  | [] => .unterminated
  | .char '}' :: _ => .complete name .value (size + 1)
  | rest =>
    match Sigil.read? rest with
    | none => .absent
    | some (sigil, rest) => ofSigil name sigil (size + sigil.text.length) rest

/-- The length of a variable, after `$`, a brace and `#`. -/
def lengthForm (rest : Text) : Opening :=
  match rest.leadingName with
  | [] => .absent
  | name =>
    match rest.drop name.length with
    | [] => .unterminated
    | .char '}' :: _ => .complete name .length (name.length + 3)
    | _ => .absent

/-- An expression in braces, after `$` and the brace. -/
def braced (rest : Text) : Opening :=
  match rest with
  | [] => .unterminated
  | .char '#' :: rest => lengthForm rest
  | rest =>
    match rest.leadingName with
    | [] => .absent
    | name => afterName name (name.length + 1) (rest.drop name.length)

/-- What the symbols after a `$` begin. -/
def read (after : Text) : Opening :=
  match after with
  | .char '{' :: rest => braced rest
  | after =>
    match after.leadingName with
    | [] => .absent
    | name => .complete name .value name.length

end Opening

end ShellTemplate
