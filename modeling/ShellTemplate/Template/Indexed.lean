import ShellTemplate.Template.Scan

/-!
# Reading by index

Reading as it is done in place: every symbol is looked up by its index in the whole text, a closing brace is searched for
from an index on, and a scan goes on from the index at which an expression ends. Lookups and searches that come to
nothing, and steps without end, are kept apart from everything that a text can come to.
-/

namespace ShellTemplate

/-- What must not happen when a text is read by index: there is no symbol at an index, there is no
    closing brace from an index on, or there are more steps to take than were allowed. -/
inductive Breach where
  | outOfRange (index : Nat)
  | noBrace (index : Nat)
  | outOfSteps
  deriving DecidableEq

namespace Indexed

/-- What the `$` at an index begins: no expression, one that the end of the text cuts off, a closed
    one with a defect or without, or a default whose body begins at the index `start`. Every `stop`
    is the index behind the expression. -/
inductive Beginning where
  | absent
  | unterminated
  | malformed (fault : Fault)
  | complete (name : Text) (operator : Operator) (stop : Nat)
  | default (name : Text) (trigger : Trigger) (start : Nat)

/-- What comes of the `$` at an index: an expression up to the index `stop`, with the offsets of the
    expressions in it; text; an expression that never ends, and so does the body around it; or a
    fault of the template. -/
inductive Trial where
  | found (node : Node) (stop : Nat) (starts : List Nat)
  | kept
  | unterminated
  | malformed (fault : Fault)

section
variable (text : Text)

/-! ## Lookups and searches -/

/-- The symbol at an index. -/
def symbolAt (index : Nat) : Except Breach Symbol :=
  match text[index]? with
  | some s => .ok s
  | none => .error (.outOfRange index)

/-- The text between two indices. -/
def slice (start stop : Nat) : Text :=
  (text.take stop).drop start

/-- The name that begins at an index, and the index behind it. -/
def nameAt? (index : Nat) : Option (Text × Nat) :=
  match Text.leadingName (text.drop index) with
  | [] => none
  | name => some (name, index + name.length)

/-- The longest sigil that begins at an index. -/
def sigilAt? (index : Nat) : Option Sigil :=
  (Sigil.read? (text.drop index)).map (·.1)

/-- The index of the last closing brace. -/
def lastBrace? : Text → Option Nat
  | [] => none
  | s :: rest =>
    match lastBrace? rest with
    | some index => some (index + 1)
    | none => if s = .char '}' then some 0 else none

/-- Whether an index is behind the last closing brace. -/
def isBehindBraces (index : Nat) : Bool :=
  (lastBrace? text).all (· < index)

/-- The index of the first closing brace from an index on, if the last one is not before it. -/
def closingBrace (index : Nat) : Except Breach (Option Nat) :=
  if isBehindBraces text index then .ok none
  else
    match (text.drop index).findIdx? (· = .char '}') with
    | some distance => .ok (some (index + distance))
    | none => .error (.noBrace index)

/-! ## Expressions -/

/-- An expression that is complete if there is a brace at an index. -/
def closedAt (name : Text) (operator : Operator) (index : Nat) : Except Breach Beginning :=
  if text.length ≤ index then .ok .unterminated
  else do
    let s ← symbolAt text index
    .ok (if s = .char '}' then .complete name operator (index + 1) else .absent)

/-- The expression whose `$` is at `start`, from the index behind its name and a sigil. -/
def afterSigil (start : Nat) (name : Text) (index : Nat) : Sigil → Except Breach Beginning
  | .changeCase letters extent => closedAt text name (.changeCase letters extent) index
  | .default trigger => .ok (.default name trigger index)
  | .payload form => do
    match ← closingBrace text index with
    | none => .ok .unterminated
    | some stop =>
      match form.operator (slice text index stop) with
      | .error defect => .ok (.malformed ⟨defect, slice text start (stop + 1), start⟩)
      | .ok operator => .ok (.complete name operator (stop + 1))

/-- The expression whose `$` is at `start`, from the index behind its name. -/
def afterName (start : Nat) (name : Text) (index : Nat) : Except Breach Beginning :=
  if text.length ≤ index then .ok .unterminated
  else do
    let s ← symbolAt text index
    if s = .char '}' then .ok (.complete name .value (index + 1))
    else
      match sigilAt? text index with
      | none => .ok .absent
      | some sigil => afterSigil text start name (index + sigil.text.length) sigil

/-- The length of a variable, from the index of its name. -/
def lengthForm (index : Nat) : Except Breach Beginning :=
  match nameAt? text index with
  | none => .ok .absent
  | some (name, stop) => closedAt text name .length stop

/-- The expression whose `$` is at `start`, with a brace behind it. -/
def braced (start : Nat) : Except Breach Beginning :=
  if text.length ≤ start + 2 then .ok .unterminated
  else do
    let s ← symbolAt text (start + 2)
    if s = .char '#' then lengthForm text (start + 3)
    else
      match nameAt? text (start + 2) with
      | none => .ok .absent
      | some (name, index) => afterName text start name index

/-- What the `$` at an index begins. -/
def beginning (start : Nat) : Except Breach Beginning :=
  if text[start + 1]? = some (.char '{') then braced text start
  else
    match nameAt? text (start + 1) with
    | none => .ok .absent
    | some (name, stop) => .ok (.complete name .value stop)

/-! ## Scans -/

/-- Gives up the unterminated expression at an index, as `Template.giveUp` does. -/
def giveUp (inBody : Bool) (start : Nat) (trace : Trace) : Trial × Trace :=
  if inBody then (.unterminated, trace.addUnterminated start)
  else (.kept, (trace.addUnterminated start).addRemark (.unterminated start))

/-- Tries the expression at the `$` of an index; `body` scans the body that begins at an index. -/
def attempt (body : Nat → Trace → Except Breach (Scan × Trace)) (inBody : Bool) (start : Nat) (trace : Trace) :
    Except Breach (Trial × Trace) :=
  if trace.unterminated.contains start then .ok (.kept, trace)
  else do
    match ← beginning text start with
    | .absent => .ok (.kept, trace.addRemark (.noExpression start))
    | .unterminated => .ok (giveUp inBody start trace)
    | .malformed fault => .ok (.malformed fault, trace)
    | .complete name operator stop => .ok (.found (.expression name operator) stop [start], trace)
    | .default name trigger index =>
      match ← body index trace with
      | (.closed pieces stop, trace) =>
        .ok (.found (.default name trigger (Template.ofPieces pieces)) (stop + 1) (start :: pieces.flatMap Piece.starts), trace)
      | (.unterminated, trace) => .ok (giveUp inBody start trace)
      | (.malformed fault, trace) => .ok (.malformed fault, trace)

/-- Scans the body that begins at an index, if it is not behind the last closing brace. -/
def enter (nodes : Nat → Trace → Except Breach (Scan × Trace)) (index : Nat) (trace : Trace) :
    Except Breach (Scan × Trace) :=
  if isBehindBraces text index then .ok (.unterminated, trace) else nodes index trace

/-- Scans from an index on, after the pieces `done`, in reverse, where `levels` defaults may be nested. Every symbol that
    is looked at and every body that is entered takes one of the steps that are left. -/
def nodes : (steps levels : Nat) → (inBody : Bool) → (done : List Piece) → (index : Nat) → Trace → Except Breach (Scan × Trace)
  | 0, _, _, _, _, _ => .error .outOfSteps
  | steps + 1, levels, inBody, done, index, trace =>
    if text.length ≤ index then .ok (if inBody then .unterminated else .closed done.reverse index, trace)
    else do
      let s ← symbolAt text index
      if s = .char '}' && inBody then .ok (.closed done.reverse index, trace)
      else if s = .char '\\' && text[index + 1]? = some (.char '$') then
        nodes steps levels inBody (.escapedDollar :: done) (index + 2) trace
      else if s = .char '$' && 0 < levels then
        match ← attempt text (enter text (nodes steps (levels - 1) true [])) inBody index trace with
        | (.found node stop starts, trace) =>
          nodes steps levels inBody (.expression node (stop - index) starts :: done) stop trace
        | (.kept, trace) => nodes steps levels inBody (.symbol s :: done) (index + 1) trace
        | (.unterminated, trace) => .ok (.unterminated, trace)
        | (.malformed fault, trace) => .ok (.malformed fault, trace)
      else nodes steps levels inBody (.symbol s :: done) (index + 1) trace

/-- Scans the body that begins at an index, where `levels` defaults may be nested in it. -/
def scanBody (steps levels index : Nat) (trace : Trace) : Except Breach (Scan × Trace) :=
  enter text (nodes text steps levels true []) index trace

/-- Tries the expression at the `$` of an index, where `levels` defaults may be nested in its body. -/
def attemptAt (steps levels : Nat) (inBody : Bool) (start : Nat) (trace : Trace) : Except Breach (Trial × Trace) :=
  attempt text (scanBody text steps levels) inBody start trace

/-- Scans a whole text. -/
def scanAll (steps levels : Nat) : Except Breach (Scan × Trace) :=
  nodes text steps levels false [] 0 .empty

end

end Indexed

end ShellTemplate
