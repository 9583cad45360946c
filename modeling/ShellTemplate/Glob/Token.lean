import ShellTemplate.Glob.Element
import ShellTemplate.Text.Symbol

/-!
# Tokens of shell patterns

The parts of a shell pattern and the symbols that each accepts: stars, question marks, literal
symbols, and brackets of symbols, ranges and named classes.
-/

namespace ShellTemplate.Glob

/-- The named classes of ASCII characters. `space` is the space and the control characters from tab
    to carriage return, `blank` the space and tab, `graph` what is shown, `print` that and the space,
    and `punct` what is shown and is neither letter nor digit. -/
inductive NamedClass where
  | alpha
  | digit
  | alnum
  | upper
  | lower
  | space
  | blank
  | punct
  | graph
  | print
  | cntrl
  | xdigit
  deriving DecidableEq

namespace NamedClass

/-- The classes in no particular order. -/
def all : List NamedClass :=
  [.alpha, .digit, .alnum, .upper, .lower, .space, .blank, .punct, .graph, .print, .cntrl, .xdigit]

/-- The name of a class, as it stands between `[:` and `:]`. -/
def name : NamedClass → Text
  | .alpha => Text.ofString "alpha"
  | .digit => Text.ofString "digit"
  | .alnum => Text.ofString "alnum"
  | .upper => Text.ofString "upper"
  | .lower => Text.ofString "lower"
  | .space => Text.ofString "space"
  | .blank => Text.ofString "blank"
  | .punct => Text.ofString "punct"
  | .graph => Text.ofString "graph"
  | .print => Text.ofString "print"
  | .cntrl => Text.ofString "cntrl"
  | .xdigit => Text.ofString "xdigit"

/-- The class of a name. -/
def ofName? (text : Text) : Option NamedClass :=
  all.find? fun c => c.name = text

theorem ofName?_name (c : NamedClass) : ofName? c.name = some c := by
  cases c <;> decide

/-- The character numbers of a class. -/
def containsCode : NamedClass → Nat → Bool
  | .alpha, n => 0x41 ≤ n && n ≤ 0x5a || 0x61 ≤ n && n ≤ 0x7a
  | .digit, n => 0x30 ≤ n && n ≤ 0x39
  | .alnum, n => 0x30 ≤ n && n ≤ 0x39 || 0x41 ≤ n && n ≤ 0x5a || 0x61 ≤ n && n ≤ 0x7a
  | .upper, n => 0x41 ≤ n && n ≤ 0x5a
  | .lower, n => 0x61 ≤ n && n ≤ 0x7a
  | .space, n => n = 0x20 || 0x09 ≤ n && n ≤ 0x0d
  | .blank, n => n = 0x20 || n = 0x09
  | .punct, n =>
    0x21 ≤ n && n ≤ 0x2f || 0x3a ≤ n && n ≤ 0x40 || 0x5b ≤ n && n ≤ 0x60 || 0x7b ≤ n && n ≤ 0x7e
  | .graph, n => 0x21 ≤ n && n ≤ 0x7e
  | .print, n => 0x20 ≤ n && n ≤ 0x7e
  | .cntrl, n => n < 0x20 || n = 0x7f
  | .xdigit, n => 0x30 ≤ n && n ≤ 0x39 || 0x41 ≤ n && n ≤ 0x46 || 0x61 ≤ n && n ≤ 0x66

end NamedClass

/-- A member of a bracket: one symbol, the symbols from `low` to `high` by number, none if `high`
    comes first, or a named class. -/
inductive Item where
  | symbol (s : Symbol)
  | range (low high : Symbol)
  | named (c : NamedClass)
  deriving DecidableEq

/-- Whether an item contains a symbol. -/
def Item.contains : Item → Symbol → Bool
  | .symbol s, t => t = s
  | .range low high, t => low.code ≤ t.code && t.code ≤ high.code
  | .named c, t => c.containsCode t.code

/-- A part of a shell pattern: `*`, `?`, a symbol that stands for itself, or a bracket, which takes
    one symbol that is in one of its items, or in none if negated. -/
inductive Token where
  | star
  | any
  | literal (s : Symbol)
  | bracket (negated : Bool) (items : List Item)
  deriving DecidableEq

/-- The element that does what a token says. -/
def Token.element : Token → Element Symbol
  | .star => .star
  | .any => .one fun _ => true
  | .literal s => .one fun t => t = s
  | .bracket negated items => .one fun t => (items.any (·.contains t)) != negated

end ShellTemplate.Glob
