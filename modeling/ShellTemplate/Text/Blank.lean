import ShellTemplate.Text.CodeSet

/-!
# Blank symbols

The characters with the Unicode property White_Space and the four separators U+001C to U+001F,
and texts stripped of them at both ends.
-/

namespace ShellTemplate

/-- The blank characters. -/
def CodeSet.blanks : CodeSet := ⟨[
    0x9, 0xe, 0x1c, 0x21, 0x85, 0x86, 0xa0, 0xa1, 0x1680, 0x1681, 0x2000, 0x200b, 0x2028, 0x202a, 0x202f,
    0x2030, 0x205f, 0x2060, 0x3000, 0x3001]⟩

/-- Whether a symbol is blank; no stray byte is. -/
def Symbol.isBlank : Symbol → Bool
  | .char c => CodeSet.blanks.contains c.toNat
  | .stray _ => false

/-- A text without the blanks it begins and ends with. -/
def Text.strip (text : Text) : Text :=
  ((text.dropWhile Symbol.isBlank).reverse.dropWhile Symbol.isBlank).reverse

end ShellTemplate
