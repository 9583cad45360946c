import ShellTemplate.Text.Blank

/-!
# Decimal integers

The texts of integers: an optional sign and ASCII digits, with blanks allowed on both sides where
a number is read.
-/

namespace ShellTemplate

/-- The value of an ASCII digit. -/
def Symbol.digit? : Symbol → Option Nat
  | .char c => if c.isDigit then some (c.toNat - 0x30) else none
  | .stray _ => none

namespace Text

/-- The most digits a number may have, leading zeros included. -/
def maxDigits : Nat := 4300

/-- Continues a number with the value `n` by the digits of a text. -/
def digitsFrom (n : Nat) : Text → Option Nat
  | [] => some n
  | s :: rest =>
    match s.digit? with
    | some d => digitsFrom (10 * n + d) rest
    | none => none

/-- The value of a text of digits, at least one and no more than `maxDigits`. -/
def toNat? (text : Text) : Option Nat :=
  if text.isEmpty || maxDigits < text.length then none else digitsFrom 0 text

/-- The value of a text of digits after an optional sign. -/
def signedToInt? : Text → Option Int
  | .char '-' :: digits => (toNat? digits).map fun n => -(n : Int)
  | .char '+' :: digits => (toNat? digits).map fun n => (n : Int)
  | digits => (toNat? digits).map fun n => (n : Int)

/-- The value of a number between blanks. -/
def toInt? (text : Text) : Option Int :=
  text.strip.signedToInt?

/-- The text of an integer, without a sign where it is not negative. -/
def ofInt : Int → Text
  | .ofNat n => ofNat n
  | .negSucc n => .char '-' :: ofNat (n + 1)

end Text

end ShellTemplate
