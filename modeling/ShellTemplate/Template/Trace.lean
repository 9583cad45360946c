import ShellTemplate.Text.Symbol

/-!
# Traces of reading

What reading remembers while it goes on: the dollar signs already known to begin an expression that
never ends, and remarks on the dollar signs that were tried and kept as text.
-/

namespace ShellTemplate

/-- Why a `$` that was tried stays literal text: the symbols after it form no expression, or the
    expression is cut off by the end of the text. The offset is that of the `$`. -/
inductive Remark where
  | noExpression (position : Nat)
  | unterminated (position : Nat)
  deriving DecidableEq

/-- The wording of a remark. -/
def Remark.message : Remark → Text
  | .noExpression position =>
    Text.ofString "no expression at offset " ++ Text.ofNat position ++ Text.ofString ", keeping `$' literal"
  | .unterminated position =>
    Text.ofString "unterminated expression at offset " ++ Text.ofNat position ++
      Text.ofString ", keeping it literal"

/-- What reading has learnt so far: the offsets of the `$` known to begin an unterminated
    expression, and the remarks, the latest first. -/
structure Trace where
  unterminated : List Nat
  remarks : List Remark
  deriving DecidableEq

namespace Trace

/-- Nothing learnt yet. -/
def empty : Trace :=
  ⟨[], []⟩

/-- Remembers that the `$` at an offset begins an unterminated expression. -/
def addUnterminated (trace : Trace) (position : Nat) : Trace :=
  { trace with unterminated := position :: trace.unterminated }

/-- Adds a remark. -/
def addRemark (trace : Trace) (remark : Remark) : Trace :=
  { trace with remarks := remark :: trace.remarks }

end Trace

end ShellTemplate
