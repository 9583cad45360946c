import ShellTemplate.Text.CaseContext
import ShellTemplate.Text.CaseTable

/-!
# Upper and lower case

The case of a whole text under the full mappings of Unicode 14, where one character may become
several. Upper case does not depend on the context. Lower case does for the capital sigma only.
-/

namespace ShellTemplate

namespace Symbol

/-- The upper case of a symbol. -/
def upper : Symbol → Text
  | .char c => (CaseTable.upper.image c).map .char
  | .stray low => [.stray low]

/-- The lower case of a symbol that stands alone. -/
def lower : Symbol → Text
  | .char c => (CaseTable.lower.image c).map .char
  | .stray low => [.stray low]

end Symbol

namespace Text

/-- The upper case of a text. -/
def upper (text : Text) : Text :=
  text.flatMap Symbol.upper

/-- Whether the first symbol that case does not look past is a cased letter. -/
def beginsCased (text : Text) : Bool :=
  ((text.dropWhile Symbol.isCaseIgnorable).head?.map Symbol.isCased).getD false

/-- The lower case of a text, after `done`, the part already lowered, in reverse. `inWord` tells
    whether the last symbol that case does not look past is a cased letter. -/
def lowerOnto (done : Text) (inWord : Bool) : Text → Text
  | [] => done.reverse
  | s :: rest =>
    let image := if s = .char 'Σ' && inWord && !beginsCased rest then [.char 'ς'] else s.lower
    lowerOnto (image.reverse ++ done) (if s.isCaseIgnorable then inWord else s.isCased) rest

/-- The lower case of a text. A capital sigma that ends a word becomes `ς`. -/
def lower (text : Text) : Text :=
  lowerOnto [] false text

end Text

end ShellTemplate
