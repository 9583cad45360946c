import ShellTemplate.Glob.Pattern

/-!
# What a symbol of a pattern is read as

The part that the symbol `c` plays in the pattern of the symbols `front` before it, `c` itself, and the
symbols `back` behind it.
-/

namespace ShellTemplate.Glob

/-- The parts that a symbol can play in a pattern: it begins a token or, in a bracket, an item, so
    that it may be the lower end of a range; the backslash before it makes it literal; it is the
    upper end of a range; or it belongs to the name of a class. -/
inductive Role where
  | leading
  | escaped
  | upperEnd
  | inClass
  deriving DecidableEq

section
variable (c : Symbol) (back : Text)

/-- The role of `c` in the item that begins with the symbol `s` before `front`, if it belongs to that item. -/
def roleInItem (s : Symbol) (front : Text) : Option Role :=
  if (itemAt s (front ++ c :: back)).2 ≤ front.length then none
  else if (className? s (front ++ c :: back)).isSome then some .inClass
  else if front.isEmpty then some .escaped
  else some .upperEnd

/-- The role of `c` among the items of a bracket, if no `]` closes the bracket before. Reading goes past
    the next `skip` symbols, which belong to the last item. -/
def roleInItems (first : Bool) : (skip : Nat) → (front : Text) → Option Role
  | _, [] => some .leading
  | skip + 1, _ :: front => roleInItems first skip front
  | 0, s :: front =>
    if s = .char ']' && !first then none
    else
      match roleInItem c back s front with
      | some role => some role
      | none => roleInItems false (itemAt s (front ++ c :: back)).2 front

/-- The role of `c` in the bracket that a `[` before `front` opens, if no `]` closes it before. -/
def roleInBracket : (front : Text) → Option Role
  | [] => some .leading
  | s :: front => if negates s then roleInItems c back true 0 front else roleInItems c back true 0 (s :: front)

/-- The role of `c` in the token that begins with the symbol `s` before `front`, if it belongs to that token.
    A bracket that is never closed is none, unless a backslash before the upper end of a range in it would
    have it closed. -/
def roleInToken (s : Symbol) (front : Text) : Option Role :=
  match s with
  | .char '\\' => if front.isEmpty then some .escaped else none
  | .char '[' =>
    if (bracketAt (front ++ c :: back)).isSome then roleInBracket c back front
    else if roleInBracket c back front = some .upperEnd && (bracketAt (front ++ .char '\\' :: c :: back)).isSome then
      some .upperEnd
    else none
  | _ => none

/-- The role of `c` among the tokens of a text, past the next `skip` symbols, which belong to the last one. -/
def roleInTokens : (skip : Nat) → (front : Text) → Role
  | _, [] => .leading
  | skip + 1, _ :: front => roleInTokens skip front
  | 0, s :: front =>
    match roleInToken c back s front with
    | some role => role
    | none => roleInTokens (tokenAt s (front ++ c :: back)).2 front

end

/-- The role of the symbol `c` between `front` and `back` in a pattern. -/
def roleBetween (front : Text) (c : Symbol) (back : Text) : Role :=
  roleInTokens c back 0 front

end ShellTemplate.Glob
