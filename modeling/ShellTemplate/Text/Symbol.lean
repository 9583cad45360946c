/-!
# Symbols and texts

A text is a list of symbols. A symbol is a Unicode character, or a byte that belonged to no
character when the text was read. With the second kind every byte string is the encoding of
some text, and nothing has to be replaced or refused.

Of the surrogates only U+DC80 to U+DCFF are symbols, as stray bytes. The others have no UTF-8
form and so never come from bytes or go into them; strings that hold them are left out.
-/

namespace ShellTemplate

/-- One position of a text: a Unicode character, or the byte `0x80 + low`, which was part of no
    character. -/
inductive Symbol where
  | char (c : Char)
  | stray (low : Fin 128)
  deriving DecidableEq

/-- Texts are lists of symbols; every count and offset is in symbols. -/
abbrev Text := List Symbol

namespace Symbol

/-- The number by which symbols are ordered. A stray byte takes one of the numbers
    U+DC80 to U+DCFF, which no character has. -/
def code : Symbol → Nat
  | .char c => c.toNat
  | .stray low => 0xdc80 + low

theorem not_eq_and {s t : Symbol} {flag : Bool} (off : s = t → flag = false) : ¬ (s = t && flag) = true := by
  simp only [Bool.and_eq_true, decide_eq_true_eq, not_and]
  intro same
  simp [off same]

/-- An ASCII letter or the underscore, which may begin a variable name. -/
def startsName : Symbol → Bool
  | .char c => c.isAlpha || c = '_'
  | .stray _ => false

/-- An ASCII letter, an ASCII digit or the underscore, which may go on in a variable name. -/
def continuesName : Symbol → Bool
  | .char c => c.isAlphanum || c = '_'
  | .stray _ => false

theorem continuesName_of_startsName {s : Symbol} (starts : s.startsName = true) : s.continuesName = true := by
  cases s with
  | char c => grind [startsName, continuesName, Char.isAlphanum]
  | stray low => cases starts

end Symbol

namespace Text

/-- The text of a string without stray bytes. -/
def ofString (s : String) : Text :=
  s.toList.map .char

/-- The decimal text of a natural number. -/
def ofNat (n : Nat) : Text :=
  ofString (toString n)

/-- Induction along a text that is read in steps, where any number of symbols may be passed with the
    first one. -/
theorem passInduction {P : Text → Prop} (ended : P []) (step : ∀ s rest, (∀ n, P (rest.drop n)) → P (s :: rest))
    (text : Text) : P text := by
  have bounded : ∀ size (text : Text), text.length ≤ size → P text := by
    intro size
    induction size with
    | zero =>
      intro text short
      rw [List.eq_nil_of_length_eq_zero (Nat.le_zero.1 short)]
      exact ended
    | succ size ih =>
      intro text short
      cases text with
      | nil => exact ended
      | cons s rest =>
        refine step s rest fun n => ih _ ?_
        simp only [List.length_cons, List.length_drop] at short ⊢
        omega
  exact bounded _ text (Nat.le_refl _)

/-- Texts in the order of their symbols' numbers, the shorter first where one begins the other. -/
def le : Text → Text → Bool
  | [], _ => true
  | _ :: _, [] => false
  | a :: s, b :: t => a.code < b.code || (a = b && le s t)

end Text

end ShellTemplate
