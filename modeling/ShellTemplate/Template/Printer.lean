import ShellTemplate.Template.Sigil

/-!
# Printing templates

The text of a template: literals with their dollar signs escaped, and every expression in braces,
with payloads as they are and numbers in decimal.
-/

namespace ShellTemplate

namespace Operator

/-- What stands between the name and the closing brace. -/
def payload : Operator → Text
  | .value => []
  | .length => []
  | .changeCase letters extent => (Sigil.changeCase letters extent).text
  | .substring offset none => (Sigil.payload .substring).text ++ Text.ofInt offset
  | .substring offset (some count) =>
    (Sigil.payload .substring).text ++ Text.ofInt offset ++ .char ':' :: Text.ofInt count
  | .replace which pattern replacement =>
    (Sigil.payload (.replace which)).text ++ pattern ++ .char '/' :: replacement
  | .remove edge longest pattern => (Sigil.payload (.remove edge longest)).text ++ pattern

/-- What stands between the opening brace and the name. -/
def mark : Operator → Text
  | .length => [.char '#']
  | _ => []

end Operator

/-- A text with a backslash before every dollar sign. -/
def Text.escapeDollars (text : Text) : Text :=
  text.flatMap fun s => if s = .char '$' then [.char '\\', s] else [s]

/-- An expression in braces. -/
def Text.braced (inside : Text) : Text :=
  .char '$' :: .char '{' :: inside ++ [.char '}']

mutual

/-- The text of a node. -/
def Node.print : Node → Text
  | .literal text => text.escapeDollars
  | .expression name operator => Text.braced (operator.mark ++ name ++ operator.payload)
  | .default name trigger body => Text.braced (name ++ (Sigil.default trigger).text ++ Template.print body)

/-- The text of a template. -/
def Template.print : List Node → Text
  | [] => []
  | node :: rest => node.print ++ Template.print rest

end

end ShellTemplate
