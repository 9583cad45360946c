import Mathlib.Data.List.Forall2
import ShellTemplate.Proofs.PlainReading

/-!
# Where the pieces of a text stand

The pieces of a text that is read spell it one after another (`spell_of_closed`). What they hold of offsets is
right: the expressions of the template begin at the `starts` of the pieces, in this order (`starts_of_closed`), and
none of them at a dollar sign that is kept as text.
-/

namespace ShellTemplate

/-- Whether a text stands at an offset, up to its end, in one that begins at `position`. -/
def TailAt (text : Text) (position offset : Nat) (tail : Text) : Prop :=
  ∃ front, text = front ++ tail ∧ offset = position + front.length

namespace TailAt

variable {position offset : Nat} {tail : Text}

theorem here (text : Text) (position : Nat) : TailAt text position position text :=
  ⟨[], rfl, rfl⟩

theorem le {text : Text} (there : TailAt text position offset tail) : position ≤ offset := by
  obtain ⟨front, -, rfl⟩ := there
  exact Nat.le_add_right _ _

theorem append (front : Text) {text : Text} (there : TailAt text (position + front.length) offset tail) :
    TailAt (front ++ text) position offset tail := by
  obtain ⟨inner, rfl, rfl⟩ := there
  exact ⟨front ++ inner, by rw [List.append_assoc], by rw [List.length_append, Nat.add_assoc]⟩

/-- At an offset there stands one text. -/
theorem eq {text other : Text} (first : TailAt text position offset tail) (second : TailAt text position offset other) :
    tail = other := by
  obtain ⟨front, rfl, rfl⟩ := first
  obtain ⟨front', split, same⟩ := second
  exact (List.append_inj split (by omega)).2

end TailAt

/-! ## The expressions of a template -/

mutual

/-- The expressions in a node, each in front of those in its body. -/
def Node.expressions : Node → List Node
  | .literal _ => []
  | .expression name operator => [.expression name operator]
  | .default name trigger body => .default name trigger body :: Template.expressions body

/-- The expressions in a template, node after node. -/
def Template.expressions : List Node → List Node
  | [] => []
  | node :: rest => node.expressions ++ Template.expressions rest

end

/-- The expressions in a piece. -/
def Piece.expressions : Piece → List Node
  | .symbol _ => []
  | .escapedDollar => []
  | .expression node _ _ => node.expressions

theorem Template.expressions_consSymbol (s : Symbol) (template : Template) :
    expressions (consSymbol s template) = expressions template := by
  unfold consSymbol
  split <;> simp [expressions, Node.expressions]

theorem Template.expressions_ofPieces (pieces : List Piece) :
    expressions (ofPieces pieces) = pieces.flatMap Piece.expressions := by
  induction pieces with
  | nil => rfl
  | cons piece pieces ih =>
    rw [List.flatMap_cons, ← ih]
    cases piece with
    | symbol s => exact expressions_consSymbol s _
    | escapedDollar => exact expressions_consSymbol _ _
    | expression node size starts => rfl

/-- Whether an expression begins at an offset of a text that begins at `position`. -/
def BeginsAt (text : Text) (position offset : Nat) (node : Node) : Prop :=
  ∃ after levels size starts, TailAt text position offset (.char '$' :: after) ∧
    Plain.attempt levels offset after = .found node size starts

theorem BeginsAt.of_mem {text : Text} {position offset : Nat} {offsets : List Nat} {nodes : List Node}
    (begins : List.Forall₂ (BeginsAt text position) offsets nodes) (member : offset ∈ offsets) :
    ∃ node, BeginsAt text position offset node := by
  induction begins with
  | nil => cases member
  | cons first later ih =>
    rcases List.mem_cons.1 member with rfl | member
    · exact ⟨_, first⟩
    · exact ih member

/-- Whether expressions of a text that begins at `position` begin at offsets before `stop`, one after another. -/
structure Starts (text : Text) (position stop : Nat) (offsets : List Nat) (nodes : List Node) : Prop where
  inside : position ≤ stop
  begins : List.Forall₂ (BeginsAt text position) offsets nodes
  ordered : offsets.Pairwise (· < ·)
  below : ∀ offset ∈ offsets, offset < stop

namespace Starts

variable {text : Text} {position stop : Nat} {offsets : List Nat} {nodes : List Node}

theorem nil {text : Text} (inside : position ≤ stop) : Starts text position stop [] [] :=
  ⟨inside, .nil, .nil, by simp⟩

theorem le (starts : Starts text position stop offsets nodes) {offset : Nat} (member : offset ∈ offsets) : position ≤ offset := by
  obtain ⟨node, after, levels, size, places, there, found⟩ := BeginsAt.of_mem starts.begins member
  exact there.le

theorem append_text (front : Text) (starts : Starts text (position + front.length) stop offsets nodes) :
    Starts (front ++ text) position stop offsets nodes where
  inside := Nat.le_trans (Nat.le_add_right _ _) starts.inside
  begins := starts.begins.imp fun offset node begins => by
    obtain ⟨after, levels, size, places, there, found⟩ := begins
    exact ⟨after, levels, size, places, there.append front, found⟩
  ordered := starts.ordered
  below := starts.below

theorem append {middle : Nat} {more : List Nat} {others : List Node} (first : Starts text position middle offsets nodes)
    (le : middle ≤ stop) (apart : ∀ offset ∈ more, middle ≤ offset) (later : Starts text position stop more others) :
    Starts text position stop (offsets ++ more) (nodes ++ others) where
  inside := later.inside
  begins := List.rel_append first.begins later.begins
  ordered := List.pairwise_append.2
    ⟨first.ordered, later.ordered, fun one early two late => Nat.lt_of_lt_of_le (first.below one early) (apart two late)⟩
  below := by
    intro offset member
    rcases List.mem_append.1 member with early | late
    · exact Nat.lt_of_lt_of_le (first.below offset early) le
    · exact later.below offset late

end Starts

/-! ## The dollar signs that are kept -/

/-- Whether a piece is a dollar sign that is kept as text. -/
def Piece.isDollar : Piece → Bool
  | .symbol s => s = .char '$'
  | _ => false

namespace Template

/-- The offsets of the dollar signs that are kept as text among pieces from the offset `position` on. -/
def keptDollars (position : Nat) : List Piece → List Nat
  | [] => []
  | piece :: pieces => (if piece.isDollar then [position] else []) ++ keptDollars (position + piece.size) pieces

section
variable {position : Nat} {pieces : List Piece}

@[simp] theorem keptDollars_dollar :
    keptDollars position (.symbol (.char '$') :: pieces) = position :: keptDollars (position + 1) pieces := by
  simp [keptDollars, Piece.isDollar, Piece.size]

theorem keptDollars_symbol {s : Symbol} (other : s ≠ .char '$') :
    keptDollars position (.symbol s :: pieces) = keptDollars (position + 1) pieces := by
  simp [keptDollars, Piece.isDollar, Piece.size, other]

@[simp] theorem keptDollars_escapedDollar :
    keptDollars position (.escapedDollar :: pieces) = keptDollars (position + 2) pieces := rfl

@[simp] theorem keptDollars_expression {node : Node} {size : Nat} {starts : List Nat} :
    keptDollars position (.expression node size starts :: pieces) = keptDollars (position + size) pieces := rfl

theorem le_of_mem_keptDollars {offset : Nat} (member : offset ∈ keptDollars position pieces) : position ≤ offset := by
  induction pieces generalizing position with
  | nil => cases member
  | cons piece pieces ih =>
    rw [keptDollars, List.mem_append] at member
    rcases member with own | later
    · split at own
      · exact Nat.le_of_eq (List.mem_singleton.1 own).symm
      · cases own
    · exact Nat.le_trans (Nat.le_add_right _ _) (ih later)

theorem keptDollars_ordered (position : Nat) (pieces : List Piece) : (keptDollars position pieces).Pairwise (· < ·) := by
  induction pieces generalizing position with
  | nil => exact .nil
  | cons piece pieces ih =>
    cases piece with
    | symbol s =>
      by_cases dollar : s = .char '$'
      · rw [dollar, keptDollars_dollar, List.pairwise_cons]
        exact ⟨fun offset member => le_of_mem_keptDollars member, ih _⟩
      · rw [keptDollars_symbol dollar]
        exact ih _
    | escapedDollar => exact ih _
    | expression node size starts => exact ih _

end

end Template

/-! ## The pieces of a scan -/

/-- Whether a text is that of a piece. -/
def Piece.Spells : Piece → Text → Prop
  | .symbol s, text => text = [s]
  | .escapedDollar, text => text = [.char '\\', .char '$']
  | .expression _ size _, text => text.length = size

/-- Whether pieces spell a text one after another. -/
def Template.Spell (pieces : List Piece) (text : Text) : Prop :=
  ∃ parts : List Text, parts.flatten = text ∧ List.Forall₂ Piece.Spells pieces parts

theorem Template.Spell.cons {piece : Piece} {pieces : List Piece} {part rest : Text} (first : piece.Spells part)
    (later : Spell pieces rest) : Spell (piece :: pieces) (part ++ rest) := by
  obtain ⟨parts, rfl, spelled⟩ := later
  exact ⟨part :: parts, rfl, .cons first spelled⟩

namespace Plain

section
variable {attempt : Nat → Text → Attempt} {position stop : Nat} {text : Text} {pieces : List Piece}

/-- The pieces of a text spell it. -/
theorem spell_of_closed (fits : Fits attempt) (closed : scan attempt false 0 text position = .closed pieces stop) :
    Template.Spell pieces text := by
  induction text using scanInduction false generalizing position pieces with
  | ended =>
    cases closed
    exact ⟨[], rfl, .nil⟩
  | closing rest inside => cases inside
  | escape rest ih =>
    rw [scan_escape] at closed
    obtain ⟨more, tail, rfl⟩ := Scan.prepend_eq_closed closed
    have first : Piece.escapedDollar.Spells [.char '\\', .char '$'] := rfl
    exact .cons first (ih tail)
  | dollar rest ih =>
    rcases scan_dollar fits false position rest with
      ⟨node, size, starts, -, inside, scanned⟩ | ⟨-, scanned⟩ | ⟨-, -, scanned⟩ | ⟨fault, -, scanned⟩ <;>
      rw [scanned] at closed
    · obtain ⟨more, tail, rfl⟩ := Scan.prepend_eq_closed closed
      have first : (Piece.expression node (size + 1) starts).Spells (.char '$' :: rest.take size) := by
        simp [Piece.Spells, inside]
      have spelled := Template.Spell.cons first (ih size tail)
      rwa [List.cons_append, List.take_append_drop] at spelled
    · obtain ⟨more, tail, rfl⟩ := Scan.prepend_eq_closed closed
      have first : (Piece.symbol (.char '$')).Spells [.char '$'] := rfl
      exact .cons first (ih 0 tail)
    · cases closed
    · cases closed
  | symbol s rest open_ bare other ih =>
    rw [scan_symbol open_ bare other] at closed
    obtain ⟨more, tail, rfl⟩ := Scan.prepend_eq_closed closed
    have first : (Piece.symbol s).Spells [s] := rfl
    exact .cons first (ih tail)

/-- The expressions of pieces begin at their `starts`, none of which is a dollar sign that is kept. -/
theorem starts_of_closed (fits : Fits attempt) (inBody : Bool)
    (expressions : ∀ ⦃position after node size starts⦄, attempt position after = .found node size starts →
      Starts (.char '$' :: after) position (position + 1 + size) starts node.expressions)
    (closed : scan attempt inBody 0 text position = .closed pieces stop) :
    Starts text position stop (pieces.flatMap Piece.starts) (pieces.flatMap Piece.expressions) ∧
      ∀ offset ∈ pieces.flatMap Piece.starts, offset ∉ Template.keptDollars position pieces := by
  induction text using scanInduction inBody generalizing position pieces with
  | ended =>
    cases inBody with
    | false =>
      cases closed
      exact ⟨.nil (Nat.le_refl _), by simp⟩
    | true => cases closed
  | closing rest inside =>
    subst inside
    rw [scan_closing] at closed
    cases closed
    exact ⟨.nil (Nat.le_refl _), by simp⟩
  | escape rest ih =>
    rw [scan_escape] at closed
    obtain ⟨more, tail, rfl⟩ := Scan.prepend_eq_closed closed
    obtain ⟨starts, apart⟩ := ih tail
    exact ⟨starts.append_text [_, _], apart⟩
  | dollar rest ih =>
    rcases scan_dollar fits inBody position rest with
      ⟨node, size, starts, found, inside, scanned⟩ | ⟨-, scanned⟩ | ⟨-, -, scanned⟩ | ⟨fault, -, scanned⟩ <;>
      rw [scanned] at closed
    · obtain ⟨more, tail, rfl⟩ := Scan.prepend_eq_closed closed
      obtain ⟨later, apart⟩ := ih size tail
      have first := expressions found
      have behind : ∀ offset ∈ more.flatMap Piece.starts, position + 1 + size ≤ offset := fun offset member => later.le member
      have further : Starts (.char '$' :: rest) position stop (more.flatMap Piece.starts) (more.flatMap Piece.expressions) := by
        have place := length_front position (.char '$') inside
        rw [place] at later
        simpa using later.append_text (.char '$' :: rest.take size)
      refine ⟨first.append later.inside behind further, ?_⟩
      intro offset member kept
      rw [List.singleton_append, Template.keptDollars_expression, ← Nat.add_assoc, Nat.add_right_comm] at kept
      rw [List.singleton_append, List.flatMap_cons, List.mem_append] at member
      rcases member with own | other
      · exact absurd (first.below offset own) (Nat.not_lt.2 (Template.le_of_mem_keptDollars kept))
      · exact apart offset other kept
    · obtain ⟨more, tail, rfl⟩ := Scan.prepend_eq_closed closed
      obtain ⟨starts, apart⟩ := ih 0 tail
      refine ⟨starts.append_text [_], ?_⟩
      intro offset member kept
      rw [List.singleton_append, Template.keptDollars_dollar, List.mem_cons] at kept
      rcases kept with rfl | later
      · exact absurd (starts.le member) (Nat.not_succ_le_self _)
      · exact apart offset member later
    · cases closed
    · cases closed
  | symbol s rest open_ bare other ih =>
    rw [scan_symbol open_ bare other] at closed
    obtain ⟨more, tail, rfl⟩ := Scan.prepend_eq_closed closed
    obtain ⟨starts, apart⟩ := ih tail
    rw [List.singleton_append, Template.keptDollars_symbol other]
    exact ⟨starts.append_text [_], apart⟩

end

/-- What is found at a `$` begins there, and so do the expressions in its body at theirs. -/
theorem starts_of_found {levels position : Nat} {after : Text} {node : Node} {size : Nat} {starts : List Nat}
    (found : attempt levels position after = .found node size starts) :
    Starts (.char '$' :: after) position (position + 1 + size) starts node.expressions := by
  induction levels generalizing position after node size starts with
  | zero => cases found
  | succ levels ih =>
    have begins : BeginsAt (.char '$' :: after) position position node :=
      ⟨after, levels + 1, size, starts, .here _ _, found⟩
    have tried := attempt_tried levels position after
    rw [found] at tried
    have inside : position < position + 1 + size := by omega
    cases tried with
    | complete opening =>
      exact ⟨Nat.le_of_lt inside, .cons begins .nil, List.pairwise_singleton _ _, by simpa using inside⟩
    | @closed name body trigger pieces stop named scanned =>
      obtain ⟨body, -⟩ := starts_of_closed (attempt_fits levels) true (fun _ _ _ _ _ found => ih found) scanned
      have behind : ∀ offset ∈ pieces.flatMap Piece.starts, position < offset := by
        intro offset member
        have le := body.le member
        omega
      have below : ∀ offset ∈ pieces.flatMap Piece.starts, offset < position + 1 + (stop - position) := by
        intro offset member
        have less := body.below offset member
        omega
      rw [Nat.add_assoc, Nat.add_comm 1] at body
      have whole := body.append_text (.char '$' :: Opening.start name trigger)
      rw [Node.expressions, Template.expressions_ofPieces]
      refine ⟨Nat.le_of_lt inside, .cons begins whole.begins, List.pairwise_cons.2 ⟨behind, whole.ordered⟩, ?_⟩
      intro offset member
      rcases List.mem_cons.1 member with rfl | later
      · exact inside
      · exact below offset later

end Plain

namespace Template

/-- A text that is read is scanned to its pieces. -/
theorem read_pieces_eq_ok_iff {text : Text} {pieces : List Piece} :
    (read text).pieces = .ok pieces ↔ ∃ stop, (scanAll maxNesting text).1 = .closed pieces stop := by
  simp only [read, Reading.ofText]
  cases scanned : (scanAll maxNesting text).1 with
  | closed more stop => simp
  | unterminated => exact absurd scanned (scanAll_ne_unterminated maxNesting text)
  | malformed fault => simp

/-- Whether pieces are those of a text with a template: they spell the text and make up the template, the expressions
    of which begin at the `starts` of the pieces. -/
structure PiecesOf (text : Text) (template : Template) (pieces : List Piece) : Prop where
  spell : Spell pieces text
  whole : ofPieces pieces = template
  begins : List.Forall₂ (BeginsAt text 0) (pieces.flatMap Piece.starts) (expressions template)
  ordered : (pieces.flatMap Piece.starts).Pairwise (· < ·)

theorem piecesOf_read {text : Text} {pieces : List Piece} (read : (read text).pieces = .ok pieces) :
    PiecesOf text (ofPieces pieces) pieces := by
  obtain ⟨stop, scanned⟩ := read_pieces_eq_ok_iff.1 read
  have closed := plain_of_closed scanned
  have fits := Plain.attempt_fits maxNesting
  obtain ⟨starts, -⟩ := Plain.starts_of_closed fits false (fun _ _ _ _ _ => Plain.starts_of_found) closed
  exact ⟨Plain.spell_of_closed fits closed, rfl, expressions_ofPieces pieces ▸ starts.begins, starts.ordered⟩

/-- No expression begins at a dollar sign that is kept as text. -/
theorem not_mem_keptDollars_of_read {text : Text} {pieces : List Piece} (read : (read text).pieces = .ok pieces) {offset : Nat}
    (member : offset ∈ pieces.flatMap Piece.starts) : offset ∉ keptDollars 0 pieces := by
  obtain ⟨stop, scanned⟩ := read_pieces_eq_ok_iff.1 read
  obtain ⟨-, apart⟩ := Plain.starts_of_closed (Plain.attempt_fits maxNesting) false
    (fun _ _ _ _ _ => Plain.starts_of_found) (plain_of_closed scanned)
  exact apart offset member

end Template

end ShellTemplate
