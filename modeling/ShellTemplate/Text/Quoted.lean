import ShellTemplate.Text.Printable

/-!
# Quoted texts

A text between quotes, with escapes for what cannot be shown, and the plain escape of stray bytes.
-/

namespace ShellTemplate

namespace Text

/-- The lowest `width` hexadecimal digits of a number. -/
def hex (width n : Nat) : Text :=
  (List.range width).reverse.map fun i => .char (Nat.digitChar ((n >>> (4 * i)) % 16))

end Text

namespace Symbol

/-- The escape of a symbol by its number: two, four or eight hexadecimal digits. -/
def numericEscape (s : Symbol) : Text :=
  if s.code < 0x100 then Text.ofString "\\x" ++ Text.hex 2 s.code
  else if s.code < 0x10000 then Text.ofString "\\u" ++ Text.hex 4 s.code
  else Text.ofString "\\U" ++ Text.hex 8 s.code

/-- A symbol as it stands between quotes of one kind. -/
def quoted (quote : Symbol) (s : Symbol) : Text :=
  if s = .char '\\' || s = quote then [.char '\\', s]
  else if s = .char '\n' then Text.ofString "\\n"
  else if s = .char '\r' then Text.ofString "\\r"
  else if s = .char '\t' then Text.ofString "\\t"
  else if s.isPrintable then [s]
  else s.numericEscape

end Symbol

namespace Text

/-- The quotes around a text: single ones, or double ones where it holds single ones only. -/
def quoteFor (text : Text) : Symbol :=
  if text.contains (.char '\x27') && !text.contains (.char '\x22') then .char '\x22' else .char '\x27'

/-- A text between quotes. -/
def quoted (text : Text) : Text :=
  text.quoteFor :: text.flatMap (Symbol.quoted text.quoteFor) ++ [text.quoteFor]

/-- A text whose stray bytes are written as escapes. -/
def escapeStrays (text : Text) : Text :=
  text.flatMap fun
    | .char c => [.char c]
    | .stray low => (Symbol.stray low).numericEscape

end Text

end ShellTemplate
