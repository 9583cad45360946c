import ShellTemplate.Glob.Token
import ShellTemplate.Text.Search

/-!
# Shell patterns

The tokens that the text of a pattern stands for, and what it means to match it or to remove what
matches it. Every text is a pattern: a bracket that never closes is literal, and so is a backslash
at the end.
-/

namespace ShellTemplate

namespace Glob

/-- The name of the class that begins with the symbol `s` before `rest`, if one does. -/
def className? (s : Symbol) (rest : Text) : Option Text :=
  match s, rest with
  | .char '[', .char ':' :: inner => (Text.cut? inner (Text.ofString ":]")).map (·.1)
  | _, _ => none

/-- The item whose lowest symbol is `s`, and the number of symbols of `rest` that belong to it. The
    upper end of a range is taken as it is; a `]` there makes the dash a symbol of its own. -/
def symbolItem (s : Symbol) (rest : Text) : Item × Nat :=
  match rest with
  | .char '-' :: high :: _ => if high = .char ']' then (.symbol s, 0) else (.range s high, 2)
  | _ => (.symbol s, 0)

/-- The item that begins with the symbol `s` before `rest`, and the number of symbols of `rest`
    that belong to it. A class with an unknown name is no item. -/
def itemAt (s : Symbol) (rest : Text) : Option Item × Nat :=
  match className? s rest with
  | some name => ((NamedClass.ofName? name).map .named, name.length + 3)
  | none =>
    match s, rest with
    | .char '\\', t :: rest => ((symbolItem t rest).1, (symbolItem t rest).2 + 1)
    | s, rest => ((symbolItem s rest).1, (symbolItem s rest).2)

/-- Reads the items of a bracket after `done`, the items already read, in reverse, and past the
    next `skip` symbols, which belong to the last one. A `]` closes the bracket unless it stands
    `first`. Gives the items and the number of symbols, `size` being those up to here. -/
def readItems (done : List Item) (first : Bool) (size : Nat) : (skip : Nat) → Text → Option (List Item × Nat)
  | _, [] => none
  | skip + 1, _ :: rest => readItems done first (size + 1) skip rest
  | 0, s :: rest =>
    if s = .char ']' && !first then some (done.reverse, size + 1)
    else
      let (item, more) := itemAt s rest
      readItems (item.toList ++ done) false (size + 1) more rest

/-- Whether a symbol negates the bracket that it begins. -/
def negates (s : Symbol) : Bool :=
  s = .char '!' || s = .char '^'

/-- The bracket that a `[` before the text opens, and the number of symbols up to its `]`. -/
def bracketAt : Text → Option (Token × Nat)
  | [] => none
  | s :: rest =>
    if negates s then (readItems [] true 1 0 rest).map fun (items, size) => (.bracket true items, size)
    else (readItems [] true 0 0 (s :: rest)).map fun (items, size) => (.bracket false items, size)

/-- The token that begins with the symbol `s` before `rest`, and the number of symbols of `rest`
    that belong to it. -/
def tokenAt (s : Symbol) (rest : Text) : Token × Nat :=
  match s, rest with
  | .char '*', _ => (.star, 0)
  | .char '?', _ => (.any, 0)
  | .char '\\', t :: _ => (.literal t, 1)
  | .char '[', rest => (bracketAt rest).getD (.literal (.char '['), 0)
  | s, _ => (.literal s, 0)

/-- Reads tokens after `done`, the tokens already read, in reverse, and past the next `skip`
    symbols, which belong to the last one. -/
def tokensOnto (done : List Token) : (skip : Nat) → Text → List Token
  | _, [] => done.reverse
  | skip + 1, _ :: rest => tokensOnto done skip rest
  | 0, s :: rest =>
    let (token, more) := tokenAt s rest
    tokensOnto (token :: done) more rest

/-- The tokens of a pattern. -/
def tokens (pattern : Text) : List Token :=
  tokensOnto [] 0 pattern

/-- The elements of a pattern, neighbouring stars joined. -/
def elements (pattern : Text) : List (Element Symbol) :=
  Element.collapse ((tokens pattern).map Token.element)

end Glob

namespace Text

open Glob

/-- Whether a text as a whole matches a pattern. -/
def matchesPattern (text pattern : Text) : Bool :=
  Element.matchAll (elements pattern) text

/-- A text without its shortest or longest leading part that matches a pattern. -/
def removeLeading (text pattern : Text) (longest : Bool) : Text :=
  match Element.leadingSize? longest (elements pattern) text with
  | some size => text.drop size
  | none => text

/-- A text without its shortest or longest trailing part that matches a pattern: what the reversed
    pattern takes from the reversed text. -/
def removeTrailing (text pattern : Text) (longest : Bool) : Text :=
  match Element.leadingSize? longest (elements pattern).reverse text.reverse with
  | some size => text.take (text.length - size)
  | none => text

end Text

end ShellTemplate
