import ShellTemplate.Glob.Pattern

/-!
# Closed patterns

Patterns whose last token ends with them: a bracket that is opened finds its `]`, a class that is begun in
a bracket finds its `:]`, and no backslash is left without a symbol to escape.
-/

namespace ShellTemplate.Glob

/-- Whether the symbol `s` before `rest` begins a class in a bracket. -/
def beginsClass (s : Symbol) (rest : Text) : Bool :=
  s = .char '[' && rest.head? = some (.char ':')

/-- Whether the items of a bracket are followed by the `]` that closes it, and every class begun before is
    closed as well. Reading goes past the next `skip` symbols, which belong to the last item. -/
def itemsClosed (first : Bool) : (skip : Nat) → Text → Bool
  | _, [] => false
  | skip + 1, _ :: rest => itemsClosed first skip rest
  | 0, s :: rest =>
    if s = .char ']' && !first then true
    else (!beginsClass s rest || (className? s rest).isSome) && itemsClosed false (itemAt s rest).2 rest

/-- Whether the bracket that a `[` before the text opens is closed, and the classes in it. -/
def bracketClosed : Text → Bool
  | [] => false
  | s :: rest => if negates s then itemsClosed true 0 rest else itemsClosed true 0 (s :: rest)

/-- Whether the token that begins with the symbol `s` before `rest` is closed. -/
def tokenClosed (s : Symbol) (rest : Text) : Bool :=
  match s with
  | .char '\\' => !rest.isEmpty
  | .char '[' => bracketClosed rest
  | _ => true

/-- Whether the tokens of a text are closed, past the next `skip` symbols, which belong to the last one. -/
def tokensClosed : (skip : Nat) → Text → Bool
  | _, [] => true
  | skip + 1, _ :: rest => tokensClosed skip rest
  | 0, s :: rest => tokenClosed s rest && tokensClosed (tokenAt s rest).2 rest

/-- Whether a pattern is closed. -/
def isClosed (pattern : Text) : Bool :=
  tokensClosed 0 pattern

end ShellTemplate.Glob
