import ShellTemplate.Text.Symbol

/-!
# Templates

A template is a list of nodes: text that is copied, and expressions that name a variable and say
what becomes of its value. A default is an expression that carries a template of its own.
-/

namespace ShellTemplate

/-- The two cases of letters, capital and small. -/
inductive LetterCase where
  | upper
  | lower
  deriving DecidableEq

/-- How much of a value changes its case: the first symbol only, or every symbol. -/
inductive Extent where
  | first
  | all
  deriving DecidableEq

/-- Which occurrences of a literal text are replaced: the leftmost one, all of them from left to
    right, the one that begins the value, or the one that ends it. -/
inductive Occurrence where
  | first
  | all
  | leading
  | trailing
  deriving DecidableEq

/-- The ends of a value. -/
inductive Edge where
  | leading
  | trailing
  deriving DecidableEq

/-- When a default takes the place of a variable: only if it is unset, or if it is unset or empty. -/
inductive Trigger where
  | unset
  | unsetOrEmpty
  deriving DecidableEq

/-- What an expression without a default does with the value of its variable. It gives the value, as
    in `$x` and `${x}`, or the number of its symbols, as in `${#x}`; it changes letters, as in
    `${x^}`, `${x^^}`, `${x,}` and `${x,,}`; it gives a part, as in `${x:offset}` and
    `${x:offset:length}`; it replaces literal text, as in `${x/a/b}`, `${x//a/b}`, `${x/#a/b}` and
    `${x/%a/b}`; or it removes what matches a pattern, as in `${x#p}`, `${x##p}`, `${x%p}` and
    `${x%%p}`. -/
inductive Operator where
  | value
  | length
  | changeCase (letters : LetterCase) (extent : Extent)
  | substring (offset : Int) (length : Option Int)
  | replace (which : Occurrence) (pattern replacement : Text)
  | remove (edge : Edge) (longest : Bool) (pattern : Text)
  deriving DecidableEq

/-- A piece of a template: text that is copied, the value of a variable under an operator, or the
    value of a variable or a default for it, as in `${x=body}` and `${x:=body}`. -/
inductive Node where
  | literal (text : Text)
  | expression (name : Text) (operator : Operator)
  | default (name : Text) (trigger : Trigger) (body : List Node)

/-- Templates are lists of nodes. -/
abbrev Template := List Node

end ShellTemplate
