import ShellTemplate.Template.Opening
import ShellTemplate.Template.Piece
import ShellTemplate.Template.Trace

/-!
# Reading templates

A scan walks over a text and tries an expression at every `$`. The body of a default is scanned in
the same way, one level further down, up to the brace that closes it. What a scan learns about
expressions that never end is kept, so that none of them is walked through again.
-/

namespace ShellTemplate

/-- What comes of a `$`: an expression, with the number of symbols after the `$` that belong to it
    and the offsets of the expressions in it; text; an expression that never ends, and so does the
    body around it; or a fault of the template. -/
inductive Attempt where
  | found (node : Node) (size : Nat) (starts : List Nat)
  | kept
  | unterminated
  | malformed (fault : Fault)

/-- What comes of a scan: the pieces up to the offset `stop`, where the text ends or a brace closes
    the body; a text that ends before the body is closed; or a fault of the template. -/
inductive Scan where
  | closed (pieces : List Piece) (stop : Nat)
  | unterminated
  | malformed (fault : Fault)

/-- A scan with more pieces in front. -/
def Scan.prepend (pieces : List Piece) : Scan → Scan
  | .closed more stop => .closed (pieces ++ more) stop
  | .unterminated => .unterminated
  | .malformed fault => .malformed fault

namespace Template

/-- How many defaults may stand inside one another; in a body further down a `$` is text. -/
def maxNesting : Nat := 32

/-- Scans a text at the offset `position` after the pieces `done`, in reverse, and past the next
    `skip` symbols, which belong to the last piece. `attempt` is told the offset of a `$` and the
    symbols after it. A body (`inBody`) is over at its brace, any other text at its end. -/
def scan (attempt : Nat → Text → Trace → Attempt × Trace) (inBody : Bool) (done : List Piece) :
    (skip : Nat) → Text → (position : Nat) → Trace → Scan × Trace
  | _, [], position, trace => (if inBody then .unterminated else .closed done.reverse position, trace)
  | skip + 1, _ :: rest, position, trace => scan attempt inBody done skip rest (position + 1) trace
  | 0, s :: rest, position, trace =>
    if s = .char '}' && inBody then (.closed done.reverse position, trace)
    else if s = .char '\\' && rest.head? = some (.char '$') then
      scan attempt inBody (.escapedDollar :: done) 1 rest (position + 1) trace
    else if s = .char '$' then
      match attempt position rest trace with
      | (.found node size starts, trace) =>
        scan attempt inBody (.expression node (size + 1) starts :: done) size rest (position + 1) trace
      | (.kept, trace) => scan attempt inBody (.symbol s :: done) 0 rest (position + 1) trace
      | (.unterminated, trace) => (.unterminated, trace)
      | (.malformed fault, trace) => (.malformed fault, trace)
    else scan attempt inBody (.symbol s :: done) 0 rest (position + 1) trace

/-- The pieces read before a scan only stand in front of those that it reads. -/
theorem scan_eq_prepend (attempt : Nat → Text → Trace → Attempt × Trace) (inBody : Bool) (done : List Piece)
    (skip : Nat) (text : Text) (position : Nat) (trace : Trace) :
    scan attempt inBody done skip text position trace =
      ((scan attempt inBody [] skip text position trace).1.prepend done.reverse,
        (scan attempt inBody [] skip text position trace).2) := by
  induction text generalizing done skip position trace with
  | nil => cases inBody <;> simp [scan, Scan.prepend]
  | cons s rest ih =>
    cases skip with
    | succ skip => simp only [scan]; exact ih ..
    | zero =>
      simp only [scan]
      split
      · simp [Scan.prepend]
      · split
        · rw [ih, ih [Piece.escapedDollar]]
          cases (scan attempt inBody [] 1 rest (position + 1) trace).1 <;> simp [Scan.prepend]
        · split
          · split
            · rename_i node size starts after found
              rw [ih, ih [_]]
              cases (scan attempt inBody [] size rest (position + 1) after).1 <;> simp [Scan.prepend]
            · rename_i after kept
              rw [ih, ih [_]]
              cases (scan attempt inBody [] 0 rest (position + 1) after).1 <;> simp [Scan.prepend]
            · rfl
            · rfl
          · rw [ih, ih [_]]
            cases (scan attempt inBody [] 0 rest (position + 1) trace).1 <;> simp [Scan.prepend]

/-- Outside a body a scan never ends as unterminated if no attempt does. -/
theorem scan_ne_unterminated {attempt : Nat → Text → Trace → Attempt × Trace}
    (settled : ∀ position after trace, (attempt position after trace).1 ≠ .unterminated) (done : List Piece)
    (skip : Nat) (text : Text) (position : Nat) (trace : Trace) :
    (scan attempt false done skip text position trace).1 ≠ .unterminated := by
  induction text generalizing done skip position trace with
  | nil => simp [scan]
  | cons s rest ih =>
    cases skip with
    | succ skip => simp only [scan]; exact ih _ _ _ _
    | zero =>
      simp only [scan]
      split
      · simp
      · split
        · exact ih _ _ _ _
        · split
          · split
            · exact ih _ _ _ _
            · exact ih _ _ _ _
            · rename_i after found
              exact absurd (congrArg Prod.fst found) (settled _ _ _)
            · simp
          · exact ih _ _ _ _

/-- Gives up the unterminated expression at an offset: a body around it cannot close either, and
    elsewhere the `$` is text. -/
def giveUp (inBody : Bool) (position : Nat) (trace : Trace) : Attempt × Trace :=
  if inBody then (.unterminated, trace.addUnterminated position)
  else (.kept, (trace.addUnterminated position).addRemark (.unterminated position))

/-- Tries the expression at the `$` of an offset, where `levels` more defaults may be nested. -/
def attempt : (levels : Nat) → (inBody : Bool) → (position : Nat) → (after : Text) → Trace → Attempt × Trace
  | 0, _, _, _, trace => (.kept, trace)
  | levels + 1, inBody, position, after, trace =>
    if trace.unterminated.contains position then (.kept, trace)
    else
      match Opening.read after with
      | .absent => (.kept, trace.addRemark (.noExpression position))
      | .unterminated => giveUp inBody position trace
      | .malformed defect size => (.malformed ⟨defect, .char '$' :: after.take size, position⟩, trace)
      | .complete name operator size => (.found (.expression name operator) size [position], trace)
      | .default name trigger size =>
        if (after.drop size).contains (.char '}') then
          match scan (attempt levels true) true [] 0 (after.drop size) (position + 1 + size) trace with
          | (.closed pieces stop, trace) =>
            (.found (.default name trigger (ofPieces pieces)) (stop - position)
              (position :: pieces.flatMap Piece.starts), trace)
          | (.unterminated, trace) => giveUp inBody position trace
          | (.malformed fault, trace) => (.malformed fault, trace)
        else giveUp inBody position trace

/-- Outside a body a `$` is never given up as unterminated. -/
theorem attempt_ne_unterminated (levels position : Nat) (after : Text) (trace : Trace) :
    (attempt levels false position after trace).1 ≠ .unterminated := by
  cases levels with
  | zero => simp [attempt]
  | succ levels =>
    simp only [attempt, giveUp]
    repeat' split
    all_goals simp_all

/-- Scans a whole text, in which `levels` defaults may be nested. -/
def scanAll (levels : Nat) (text : Text) : Scan × Trace :=
  scan (attempt levels false) false [] 0 text 0 .empty

/-- A whole text is always read to its end or to a fault. -/
theorem scanAll_ne_unterminated (levels : Nat) (text : Text) : (scanAll levels text).1 ≠ .unterminated :=
  scan_ne_unterminated (attempt_ne_unterminated levels) _ _ _ _ _

end Template

end ShellTemplate
