import Mathlib.Logic.Relation
import ShellTemplate.Proofs.NestingLevels

/-!
# Walks through a text

A walk goes over a text as scans do, but takes no notice of how bodies end: it goes down into the body
of every default and up again at every closing brace. Two passes over a text that treat an expression
differently can so be compared where they meet: a pass that came there with more levels left has them
all the way on (`Passes`), up to the `$` at which scans are held up.
-/

namespace ShellTemplate

/-- A place in a text: the number of defaults that may be nested there, the offset, and the text from
    there on. -/
structure Spot where
  levels : Nat
  position : Nat
  text : Text

/-- A step of a walk: over a symbol that stands for itself or an escaped dollar sign, over a `$` that is text or an
    expression without a body, out of a body, or into that of a default. A closing brace leads up a level, but not
    above `limit`. A `$` that is `known` may be taken for text where its expression never ends, or would not with
    fewer levels. -/
inductive Step (limit : Nat) (known : List Nat) : Spot → Spot → Prop
  | symbol {levels position : Nat} {s : Symbol} {rest : Text} (open_ : s ≠ .char '}')
      (bare : s = .char '\\' → rest.head? ≠ some (.char '$')) (other : s ≠ .char '$') :
      Step limit known ⟨levels, position, s :: rest⟩ ⟨levels, position + 1, rest⟩
  | closing {levels position : Nat} {rest : Text} :
      Step limit known ⟨levels, position, .char '}' :: rest⟩ ⟨min (levels + 1) limit, position + 1, rest⟩
  | escape {levels position : Nat} {rest : Text} :
      Step limit known ⟨levels, position, .char '\\' :: .char '$' :: rest⟩ ⟨levels, position + 2, rest⟩
  | bottom {position : Nat} {rest : Text} :
      Step limit known ⟨0, position, .char '$' :: rest⟩ ⟨0, position + 1, rest⟩
  | absent {levels position : Nat} {rest : Text} (opening : Opening.read rest = .absent) :
      Step limit known ⟨levels, position, .char '$' :: rest⟩ ⟨levels, position + 1, rest⟩
  | known {levels few position : Nat} {rest : Text} (member : position ∈ known) (le : few ≤ levels)
      (unterminated : Plain.attempt few position rest = .unterminated) :
      Step limit known ⟨levels, position, .char '$' :: rest⟩ ⟨levels, position + 1, rest⟩
  | complete {levels position size : Nat} {rest name : Text} {operator : Operator}
      (opening : Opening.read rest = .complete name operator size) :
      Step limit known ⟨levels + 1, position, .char '$' :: rest⟩ ⟨levels + 1, position + 1 + size, rest.drop size⟩
  | enter {levels position size : Nat} {rest name : Text} {trigger : Trigger}
      (opening : Opening.read rest = .default name trigger size) :
      Step limit known ⟨levels + 1, position, .char '$' :: rest⟩ ⟨levels, position + 1 + size, rest.drop size⟩

/-- Any number of steps. -/
abbrev Walk (limit : Nat) (known : List Nat) : Spot → Spot → Prop :=
  Relation.ReflTransGen (Step limit known)

/-- Whether a scan is held up at a spot, with its levels and with any number more. -/
def Spot.Blocks (spot : Spot) : Prop :=
  ∃ after, spot.text = .char '$' :: after ∧ ∀ many ≥ spot.levels,
    Plain.attempt many spot.position after = .unterminated ∨ ∃ fault, Plain.attempt many spot.position after = .malformed fault

/-- Whether the expression at a spot never ends. -/
def Spot.Unending (spot : Spot) : Prop :=
  ∃ after, spot.text = .char '$' :: after ∧ Plain.attempt spot.levels spot.position after = .unterminated

/-- Whether a fault is that of the expression at a spot. -/
def Spot.Faulty (spot : Spot) (fault : Fault) : Prop :=
  ∃ after defect size, spot.text = .char '$' :: after ∧ 0 < spot.levels ∧ Opening.read after = .malformed defect size ∧
    fault = ⟨defect, .char '$' :: after.take size, spot.position⟩

theorem Spot.Unending.blocks {spot : Spot} (unending : spot.Unending) : spot.Blocks := by
  obtain ⟨after, text, unterminated⟩ := unending
  refine ⟨after, text, fun many more => ?_⟩
  rcases Plain.attempt_of_unterminated more unterminated with ⟨still, -⟩ | ⟨fault, malformed, -⟩
  · exact .inl still
  · exact .inr ⟨fault, malformed⟩

theorem Spot.Faulty.blocks {spot : Spot} {fault : Fault} (faulty : spot.Faulty fault) : spot.Blocks := by
  obtain ⟨after, defect, size, text, live, opening, -⟩ := faulty
  refine ⟨after, text, fun many more => ?_⟩
  obtain ⟨lower, rfl⟩ : ∃ lower, many = lower + 1 := ⟨many - 1, by omega⟩
  exact .inr ⟨_, Plain.attempt_malformed opening⟩

theorem Spot.Faulty.not_default {spot : Spot} {fault : Fault} (faulty : spot.Faulty fault) {name body : Text}
    {trigger : Trigger} (named : name.isName) :
    spot.text ≠ .char '$' :: (Opening.start name trigger ++ body) := by
  intro same
  obtain ⟨after, defect, size, text, -, opening, -⟩ := faulty
  rw [text] at same
  cases same
  rw [Opening.read_start named] at opening
  cases opening

theorem Spot.Blocks.levels_pos {spot : Spot} (blocks : spot.Blocks) : 0 < spot.levels := by
  obtain ⟨after, -, held⟩ := blocks
  rcases Nat.eq_zero_or_pos spot.levels with zero | positive
  · rcases held 0 (by omega) with kept | ⟨fault, kept⟩ <;> cases kept
  · exact positive

section
variable {limit : Nat} {known : List Nat}

theorem Step.position_lt {here there : Spot} (step : Step limit known here there) :
    here.position < there.position := by
  cases step <;> simp only <;> omega

/-- What a step or a walk goes over is the front of the text. -/
theorem Step.split {here there : Spot} (step : Step limit known here there) :
    ∃ front, here.text = front ++ there.text ∧ there.position = here.position + front.length := by
  have passed : ∀ {position size : Nat} {rest : Text}, size ≤ rest.length →
      ∃ front, .char '$' :: rest = front ++ rest.drop size ∧ position + 1 + size = position + front.length := fun fits =>
    ⟨.char '$' :: _, by simp, length_front _ _ fits⟩
  cases step with
  | escape => exact ⟨[_, _], rfl, rfl⟩
  | complete opening =>
    exact passed (Plain.size_le_of_complete opening)
  | @enter _ _ _ rest _ _ opening =>
    have shape := Opening.read_shape rest
    rw [opening] at shape
    obtain ⟨-, rfl, body, rfl⟩ := shape
    exact passed (by simp)
  | _ => exact ⟨[_], rfl, rfl⟩

theorem Walk.split {here there : Spot} (walk : Walk limit known here there) :
    ∃ front, here.text = front ++ there.text ∧ there.position = here.position + front.length := by
  induction walk with
  | refl => exact ⟨[], rfl, rfl⟩
  | tail _ step ih =>
    obtain ⟨front, text, place⟩ := ih
    obtain ⟨more, text', place'⟩ := step.split
    exact ⟨front ++ more, by rw [text, text', List.append_assoc], by rw [place', place, List.length_append, Nat.add_assoc]⟩

theorem Walk.position_le {here there : Spot} (walk : Walk limit known here there) :
    here.position ≤ there.position := by
  obtain ⟨front, -, place⟩ := walk.split
  omega

theorem Step.mono {more : List Nat} (subset : known ⊆ more) {here there : Spot}
    (step : Step limit known here there) :
    Step limit more here there := by
  cases step with
  | symbol open_ bare other => exact .symbol open_ bare other
  | closing => exact .closing
  | escape => exact .escape
  | bottom => exact .bottom
  | absent opening => exact .absent opening
  | known member le unterminated => exact .known (subset member) le unterminated
  | complete opening => exact .complete opening
  | enter opening => exact .enter opening

theorem Walk.mono {more : List Nat} (subset : known ⊆ more) {here there : Spot}
    (walk : Walk limit known here there) :
    Walk limit more here there :=
  Relation.ReflTransGen.mono (fun _ _ step => step.mono subset) _ _ walk

/-- Whether a walk from a spot, or from the same place with fewer levels, leads to `target`. -/
def Below (limit : Nat) (known : List Nat) (here target : Spot) : Prop :=
  ∃ few ≤ here.levels, Walk limit known ⟨few, here.position, here.text⟩ target

theorem Below.of_walk {here target : Spot} (walk : Walk limit known here target) :
    Below limit known here target :=
  ⟨here.levels, Nat.le_refl _, walk⟩

theorem Below.mono {more : List Nat} (subset : known ⊆ more) {here target : Spot}
    (below : Below limit known here target) :
    Below limit more here target := by
  obtain ⟨few, le, walk⟩ := below
  exact ⟨few, le, walk.mono subset⟩

theorem Below.position_le {here target : Spot} (below : Below limit known here target) :
    here.position ≤ target.position := by
  obtain ⟨few, le, walk⟩ := below
  exact walk.position_le

/-- Whether a walk leads from `here` to `there`, and every walk that began no higher than the one at
    `here` comes by no higher than the other at `there`, unless something held scans up before. -/
def Passes (limit : Nat) (known : List Nat) (here there : Spot) : Prop :=
  Walk limit known here there ∧
    ∀ target : Spot, target.Blocks → Below limit known here target → Below limit known there target

theorem Passes.refl (here : Spot) : Passes limit known here here :=
  ⟨.refl, fun _ _ below => below⟩

theorem Passes.trans {here between there : Spot} (first : Passes limit known here between)
    (second : Passes limit known between there) : Passes limit known here there :=
  ⟨first.1.trans second.1, fun target blocks below => second.2 target blocks (first.2 target blocks below)⟩

section
variable {levels position : Nat} {rest : Text}

theorem passes_symbol {s : Symbol}
    (open_ : s ≠ .char '}') (bare : s = .char '\\' → rest.head? ≠ some (.char '$'))
    (other : s ≠ .char '$') :
    Passes limit known ⟨levels, position, s :: rest⟩ ⟨levels, position + 1, rest⟩ := by
  refine ⟨.single (.symbol open_ bare other), fun target blocks below => ?_⟩
  obtain ⟨few, le, walk⟩ := below
  rcases walk.cases_head with rfl | ⟨next, step, walk⟩
  · obtain ⟨after, text, -⟩ := blocks
    exact absurd (List.cons.inj text).1 other
  · cases step with
    | symbol => exact ⟨few, le, walk⟩
    | closing => exact absurd rfl open_
    | escape => exact absurd rfl (bare rfl)
    | _ => exact absurd rfl other

theorem passes_closing :
    Passes limit known ⟨levels, position, .char '}' :: rest⟩ ⟨min (levels + 1) limit, position + 1, rest⟩ := by
  refine ⟨.single .closing, fun target blocks below => ?_⟩
  obtain ⟨few, le, walk⟩ := below
  simp only at le
  rcases walk.cases_head with rfl | ⟨next, step, walk⟩
  · obtain ⟨after, text, -⟩ := blocks
    cases text
  · cases step with
    | symbol open_ => exact absurd rfl open_
    | closing => exact ⟨min (few + 1) limit, by simp only; omega, walk⟩

theorem passes_escape : Passes limit known ⟨levels, position, .char '\\' :: .char '$' :: rest⟩ ⟨levels, position + 2, rest⟩ := by
  refine ⟨.single .escape, fun target blocks below => ?_⟩
  obtain ⟨few, le, walk⟩ := below
  rcases walk.cases_head with rfl | ⟨next, step, walk⟩
  · obtain ⟨after, text, -⟩ := blocks
    cases text
  · cases step with
    | symbol open_ bare => exact absurd rfl (bare rfl)
    | escape => exact ⟨few, le, walk⟩

theorem passes_inert {front : Text} (inert : ∀ s ∈ front, s.isInert = true) (text : Text) :
    Passes limit known ⟨levels, position, front ++ text⟩ ⟨levels, position + front.length, text⟩ := by
  induction front generalizing position with
  | nil => exact .refl _
  | cons s front ih =>
    have own := inert s List.mem_cons_self
    simp only [Symbol.isInert, Bool.and_eq_true, bne_iff_ne] at own
    have further := @ih (position + 1) fun t member => inert t (List.mem_cons_of_mem _ member)
    rw [Nat.add_assoc, Nat.add_comm 1] at further
    exact (passes_symbol own.1.2 (fun same => absurd same own.2) own.1.1).trans further

/-- Where no default may be nested, everything up to a closing brace is passed. -/
theorem passes_zero {inner : Text} (unclosed : .char '}' ∉ inner) (rest : Text) :
    Passes limit known ⟨0, position, inner ++ .char '}' :: rest⟩ ⟨0, position + inner.length, .char '}' :: rest⟩ := by
  induction inner using scanInduction true generalizing position with
  | ended => exact .refl _
  | closing inner _ => simp at unclosed
  | escape inner ih =>
    have further := @ih (position + 2) (by simpa using unclosed)
    refine passes_escape.trans ?_
    simpa [Nat.add_comm, Nat.add_left_comm] using further
  | dollar inner ih =>
    have further := @ih 0 (position + 1) (by simpa using unclosed)
    have first : Passes limit known ⟨0, position, .char '$' :: (inner ++ .char '}' :: rest)⟩
        ⟨0, position + 1, inner ++ .char '}' :: rest⟩ := by
      refine ⟨.single .bottom, fun target blocks below => ?_⟩
      obtain ⟨few, le, walk⟩ := below
      obtain rfl := Nat.le_zero.1 le
      rcases walk.cases_head with rfl | ⟨next, step, walk⟩
      · exact absurd blocks.levels_pos (Nat.lt_irrefl 0)
      · cases step with
        | symbol _ _ other => exact absurd rfl other
        | bottom => exact ⟨0, le, walk⟩
        | absent => exact ⟨0, le, walk⟩
        | known => exact ⟨0, le, walk⟩
    refine first.trans ?_
    simpa [Nat.add_comm, Nat.add_left_comm] using further
  | symbol s inner open_ bare other ih =>
    simp only [List.mem_cons, not_or] at unclosed
    refine (passes_symbol (Ne.symm unclosed.1) (bare_append_closing bare rest) other).trans ?_
    simpa [Nat.add_comm, Nat.add_left_comm] using @ih (position + 1) unclosed.2

/-- A `$` that is kept as text is passed. -/
theorem passes_kept (kept : Plain.attempt levels position rest = .kept) :
    Passes limit known ⟨levels, position, .char '$' :: rest⟩ ⟨levels, position + 1, rest⟩ := by
  have why := Plain.attempt_eq_kept_iff.1 kept
  constructor
  · rcases why with rfl | absent
    · exact .single .bottom
    · exact .single (.absent absent)
  · intro target blocks below
    obtain ⟨few, le, walk⟩ := below
    simp only at le
    rcases walk.cases_head with rfl | ⟨next, step, walk⟩
    · obtain ⟨after, text, held⟩ := blocks
      cases text
      rcases held levels le with still | ⟨fault, malformed⟩
      · simp [kept] at still
      · simp [kept] at malformed
    · cases step with
      | symbol _ _ other => exact absurd rfl other
      | bottom => exact ⟨0, le, walk⟩
      | absent => exact ⟨few, le, walk⟩
      | known => exact ⟨few, le, walk⟩
      | complete opening =>
        rcases why with rfl | absent
        · cases le
        · rw [absent] at opening
          cases opening
      | enter opening =>
        rcases why with rfl | absent
        · cases le
        · rw [absent] at opening
          cases opening

/-- An expression without a body is passed. -/
theorem passes_complete {name : Text} {operator : Operator} {size : Nat}
    (opening : Opening.read rest = .complete name operator size) :
    Passes limit known ⟨levels + 1, position, .char '$' :: rest⟩ ⟨levels + 1, position + 1 + size, rest.drop size⟩ := by
  refine ⟨.single (.complete opening), fun target blocks below => ?_⟩
  obtain ⟨few, le, walk⟩ := below
  rcases walk.cases_head with rfl | ⟨next, step, walk⟩
  · obtain ⟨after, text, held⟩ := blocks
    cases text
    rcases held (levels + 1) le with still | ⟨fault, malformed⟩
    · simp [Plain.attempt_complete opening] at still
    · simp [Plain.attempt_complete opening] at malformed
  · cases step with
    | symbol _ _ other => exact absurd rfl other
    | bottom =>
      -- the walk below goes through the symbols of the expression one by one
      have shape := Opening.read_shape rest
      rw [opening] at shape
      obtain ⟨named, ⟨inner, back, rfl, unclosed, rfl⟩ | ⟨-, back, rfl, -, -, rfl⟩⟩ := shape
      · have through := ((passes_zero unclosed back).trans passes_closing).2 target blocks ⟨0, Nat.le_refl 0, walk⟩
        obtain ⟨more, le', walk⟩ := through
        simp only at le' walk
        have drop : (inner ++ .char '}' :: back).drop (inner.length + 1) = back := by simp
        rw [drop, ← Nat.add_assoc]
        exact ⟨more, by simp only; omega, walk⟩
      · have inert : ∀ s ∈ name, s.isInert = true := fun s member =>
          Symbol.isInert_of_continuesName (Text.continuesName_of_isName named member)
        obtain ⟨more, le', walk⟩ := (passes_inert inert back).2 target blocks ⟨0, Nat.le_refl 0, walk⟩
        rw [List.drop_left]
        exact ⟨more, Nat.le_trans le' (Nat.zero_le _), walk⟩
    | absent other =>
      rw [opening] at other
      cases other
    | @known _ few _ _ _ le unterminated =>
      cases few with
      | zero => cases unterminated
      | succ few => simp [Plain.attempt_complete opening] at unterminated
    | complete other =>
      rw [opening] at other
      cases other
      exact ⟨_, le, walk⟩
    | enter other =>
      rw [opening] at other
      cases other

theorem Step.default {name body : Text} {trigger : Trigger} (named : name.isName) :
    Step limit known ⟨levels + 1, position, .char '$' :: (Opening.start name trigger ++ body)⟩
      ⟨levels, position + 1 + (Opening.start name trigger).length, body⟩ := by
  have opening := Opening.read_start named trigger body
  have step : Step limit known ⟨levels + 1, position, .char '$' :: (Opening.start name trigger ++ body)⟩ _ := .enter opening
  rwa [List.drop_left] at step

/-- From the `$` of a default every walk below leads into its body, or over the `$` if it is known, if
    it does not end there. -/
theorem below_default {name body : Text} {trigger : Trigger} (named : name.isName) {target : Spot}
    (blocks : target.Blocks)
    (below : Below limit known ⟨levels + 1, position, .char '$' :: (Opening.start name trigger ++ body)⟩ target) :
    (target.position = position ∧ target.levels ≤ levels + 1 ∧ target.text = .char '$' :: (Opening.start name trigger ++ body)) ∨
      Below limit known ⟨levels, position + 1 + (Opening.start name trigger).length, body⟩ target ∨
        position ∈ known ∧
          (∃ few ≤ levels + 1, Plain.attempt few position (Opening.start name trigger ++ body) = .unterminated) ∧
          Below limit known ⟨levels + 1, position + 1, Opening.start name trigger ++ body⟩ target := by
  have opening := Opening.read_start named trigger body
  have inert : ∀ s ∈ Opening.start name trigger, s.isInert = true := fun s member =>
    Opening.isInert_of_mem_start named trigger member
  obtain ⟨few, le, walk⟩ := below
  simp only at le
  rcases walk.cases_head with rfl | ⟨next, step, walk⟩
  · exact .inl ⟨rfl, le, rfl⟩
  · right
    cases step with
    | symbol _ _ other => exact absurd rfl other
    | bottom =>
      obtain ⟨more, le', walk⟩ := (passes_inert inert body).2 target blocks ⟨0, Nat.le_refl 0, walk⟩
      exact .inl ⟨more, Nat.le_trans le' (Nat.zero_le _), walk⟩
    | absent other =>
      rw [opening] at other
      cases other
    | @known _ fewer _ _ member le' unterminated =>
      exact .inr ⟨member, ⟨fewer, Nat.le_trans le' le, unterminated⟩, few, le, walk⟩
    | complete other =>
      rw [opening] at other
      cases other
    | enter other =>
      rw [opening] at other
      cases other
      rw [List.drop_left] at walk
      exact .inl ⟨_, Nat.le_of_succ_le_succ le, walk⟩

/-- From the `$` of anything but a whole expression without a body every walk below leads over the `$`
    one way or another, if it does not end there. -/
theorem below_text (incomplete : ∀ name operator size, Opening.read rest ≠ .complete name operator size)
    {target : Spot}
    (below : Below limit known ⟨levels, position, .char '$' :: rest⟩ target) :
    (target.position = position ∧ target.levels ≤ levels ∧ target.text = .char '$' :: rest) ∨
      Below limit known ⟨levels, position + 1, rest⟩ target := by
  obtain ⟨few, le, walk⟩ := below
  simp only at le
  rcases walk.cases_head with rfl | ⟨next, step, walk⟩
  · exact .inl ⟨rfl, le, rfl⟩
  · right
    cases step with
    | symbol _ _ other => exact absurd rfl other
    | bottom => exact ⟨0, le, walk⟩
    | absent => exact ⟨few, le, walk⟩
    | known => exact ⟨few, le, walk⟩
    | complete opening => exact absurd opening (incomplete _ _ _)
    | @enter lower _ size _ name trigger opening =>
      have shape := Opening.read_shape rest
      rw [opening] at shape
      obtain ⟨named, rfl, body, rfl⟩ := shape
      rw [List.drop_left] at walk
      have inert : ∀ s ∈ Opening.start name trigger, s.isInert = true := fun s member =>
        Opening.isInert_of_mem_start named trigger member
      exact ⟨lower, Nat.le_of_succ_le le, (passes_inert inert body).1.trans walk⟩

end

/-- Nothing that is unterminated is a whole expression without a body. -/
theorem incomplete_of_unterminated {few position : Nat} {rest : Text}
    (unterminated : Plain.attempt few position rest = .unterminated)
    (name : Text) (operator : Operator) (size : Nat) : Opening.read rest ≠ .complete name operator size := by
  intro opening
  cases few with
  | zero => cases unterminated
  | succ few => simp [Plain.attempt_complete opening] at unterminated

/-- Whether a body up to the brace at the offset `stop` is passed. -/
def PassesBody (limit : Nat) (known : List Nat) (levels position : Nat) (text : Text) (stop : Nat) : Prop :=
  ∃ inner rest, text = inner ++ .char '}' :: rest ∧ stop = position + inner.length ∧
    Passes limit known ⟨levels, position, text⟩ ⟨levels, stop, .char '}' :: rest⟩

theorem PassesBody.append {levels position stop : Nat} (front : Text) {tail : Text}
    (passes : Passes limit known ⟨levels, position, front ++ tail⟩ ⟨levels, position + front.length, tail⟩)
    (body : PassesBody limit known levels (position + front.length) tail stop) :
    PassesBody limit known levels position (front ++ tail) stop := by
  obtain ⟨inner, rest, rfl, rfl, further⟩ := body
  exact ⟨front ++ inner, rest, by simp, by simp [Nat.add_assoc], passes.trans further⟩

/-- A body that is closed is passed, as long as the expressions in it are. -/
private theorem passesBody_of_found {levels : Nat}
    (found : ∀ {position rest node size starts}, Plain.attempt levels position rest = .found node size starts →
      Passes limit known ⟨levels, position, .char '$' :: rest⟩ ⟨levels, position + 1 + size, rest.drop size⟩)
    {text : Text} {position stop : Nat} {pieces : List Piece}
    (closed : Plain.scan (Plain.attempt levels) true 0 text position = .closed pieces stop) :
    PassesBody limit known levels position text stop := by
  induction text using scanInduction true generalizing position pieces with
  | ended => cases closed
  | closing rest _ =>
    rw [Plain.scan_closing] at closed
    cases closed
    exact ⟨[], rest, rfl, rfl, .refl _⟩
  | escape rest ih =>
    rw [Plain.scan_escape] at closed
    obtain ⟨more, tail, -⟩ := Scan.prepend_eq_closed closed
    exact PassesBody.append [_, _] passes_escape (ih tail)
  | dollar rest ih =>
    rcases Plain.scan_dollar (Plain.attempt_fits levels) true position rest with
      ⟨node, size, starts, tried, inside, scanned⟩ | ⟨kept | ⟨-, outside⟩, scanned⟩ | ⟨-, -, scanned⟩ | ⟨fault, -, scanned⟩
    · rw [scanned] at closed
      obtain ⟨more, tail, -⟩ := Scan.prepend_eq_closed closed
      have passes := found tried
      rw [length_front position (.char '$') inside] at passes tail
      have body := PassesBody.append (.char '$' :: rest.take size) (by simpa using passes) (ih size tail)
      simpa using body
    · rw [scanned] at closed
      obtain ⟨more, tail, -⟩ := Scan.prepend_eq_closed closed
      exact PassesBody.append [_] (passes_kept kept) (ih 0 tail)
    · cases outside
    · rw [scanned] at closed
      cases closed
    · rw [scanned] at closed
      cases closed
  | symbol s rest open_ bare other ih =>
    rw [Plain.scan_symbol open_ bare other] at closed
    obtain ⟨more, tail, -⟩ := Scan.prepend_eq_closed closed
    have inside : s ≠ .char '}' := by
      rintro rfl
      cases open_ rfl
    exact PassesBody.append [_] (passes_symbol inside bare other) (ih tail)

/-- An expression that is found is passed. -/
theorem passes_found {levels position : Nat} {rest : Text} {node : Node} {size : Nat} {starts : List Nat}
    (below : levels ≤ limit)
    (found : Plain.attempt levels position rest = .found node size starts) :
    Passes limit known ⟨levels, position, .char '$' :: rest⟩ ⟨levels, position + 1 + size, rest.drop size⟩ := by
  induction levels generalizing position rest node size starts with
  | zero => cases found
  | succ levels ih =>
    have tried := Plain.attempt_tried levels position rest
    rw [found] at tried
    cases tried with
    | complete opening => exact passes_complete opening
    | @closed name body trigger pieces stop named scanned =>
      obtain ⟨inner, back, rfl, rfl, passes⟩ := passesBody_of_found (ih (Nat.le_of_succ_le below)) scanned
      have level : min (levels + 1) limit = levels + 1 := Nat.min_eq_left below
      have size : position + 1 + (Opening.start name trigger).length + inner.length - position =
          (Opening.start name trigger).length + inner.length + 1 := by omega
      have after := passes.trans passes_closing
      rw [level] at after
      rw [size, Plain.drop_closed]
      refine ⟨?_, fun target blocks walks => ?_⟩
      · have walk := Relation.ReflTransGen.head (Step.default named) after.1
        simpa [Nat.add_assoc] using walk
      · have never : ∀ {few}, few ≤ levels + 1 →
            Plain.attempt few position (Opening.start name trigger ++ (inner ++ .char '}' :: back)) ≠ .unterminated := by
          intro few le unterminated
          rcases Plain.attempt_of_unterminated le unterminated with ⟨still, -⟩ | ⟨fault, malformed, -⟩
          · simp [found] at still
          · simp [found] at malformed
        rcases below_default named blocks walks with ⟨place, le, text⟩ | inside | ⟨-, ⟨few, le, unterminated⟩, -⟩
        · obtain ⟨after, text', held⟩ := blocks
          rw [text] at text'
          cases text'
          rw [place] at held
          rcases held (levels + 1) le with still | ⟨fault, malformed⟩
          · simp [found] at still
          · simp [found] at malformed
        · simpa [Nat.add_assoc] using after.2 target blocks inside
        · exact absurd unterminated (never le)

/-- If a walk below leads to a fault, a body has none after it. -/
theorem fault_position_le {levels : Nat} (below : levels ≤ limit) {target : Spot} {own : Fault}
    (faulty : target.Faulty own)
    {text : Text} {position : Nat} {fault : Fault}
    (malformed : Plain.scan (Plain.attempt levels) true 0 text position = .malformed fault)
    (walks : Below limit known ⟨levels, position, text⟩ target) : fault.position ≤ target.position := by
  induction levels using Nat.strongRecOn generalizing text position with
  | _ levels ihLevels =>
    induction text using scanInduction true generalizing position with
    | ended => cases malformed
    | closing rest _ =>
      rw [Plain.scan_closing] at malformed
      cases malformed
    | escape rest ih =>
      rw [Plain.scan_escape, Scan.prepend_eq_malformed] at malformed
      exact ih malformed (passes_escape.2 target faulty.blocks walks)
    | dollar rest ih =>
      rcases Plain.scan_dollar (Plain.attempt_fits levels) true position rest with
        ⟨node, size, starts, tried, inside, scanned⟩ | ⟨kept | ⟨-, outside⟩, scanned⟩ | ⟨-, -, scanned⟩ | ⟨other, tried, scanned⟩ <;>
        rw [scanned] at malformed
      · exact ih size (Scan.prepend_eq_malformed.1 malformed) ((passes_found below tried).2 target faulty.blocks walks)
      · exact ih 0 (Scan.prepend_eq_malformed.1 malformed) ((passes_kept kept).2 target faulty.blocks walks)
      · cases outside
      · cases malformed
      · cases malformed
        obtain ⟨lower, rfl, reason⟩ := Plain.tried_of_attempt tried (by simp)
        cases reason with
        | malformed opening => exact walks.position_le
        | @faulty name body trigger _ named inner =>
          rcases below_default named faulty.blocks walks with ⟨-, -, text⟩ | inside | ⟨-, ⟨few, le, unterminated⟩, after⟩
          · exact absurd text (faulty.not_default named)
          · exact ihLevels lower (Nat.lt_succ_self lower) (Nat.le_of_succ_le below) inner inside
          · rcases Plain.attempt_of_unterminated le unterminated with ⟨still, -⟩ | ⟨other, again, around⟩
            · rw [still] at tried
              cases tried
            · rw [again] at tried
              cases tried
              exact ih 0 (Scan.outline_eq_malformed.1 around) after
    | symbol s rest open_ bare other ih =>
      rw [Plain.scan_symbol open_ bare other, Scan.prepend_eq_malformed] at malformed
      have inside : s ≠ .char '}' := by
        rintro rfl
        cases open_ rfl
      exact ih malformed ((passes_symbol inside bare other).2 target faulty.blocks walks)

/-- A fault in a body is one outside as well. -/
theorem malformed_outside {levels : Nat} {text : Text} {position : Nat} {fault : Fault}
    (malformed : Plain.scan (Plain.attempt levels) true 0 text position = .malformed fault) :
    Plain.scan (Plain.attempt levels) false 0 text position = .malformed fault := by
  induction text using scanInduction true generalizing position with
  | ended => cases malformed
  | closing rest _ =>
    rw [Plain.scan_closing] at malformed
    cases malformed
  | escape rest ih =>
    rw [Plain.scan_escape, Scan.prepend_eq_malformed] at malformed
    rw [Plain.scan_escape, Scan.prepend_eq_malformed]
    exact ih malformed
  | dollar rest ih =>
    rcases Plain.scan_dollar (Plain.attempt_fits levels) true position rest with
      ⟨node, size, starts, tried, inside, scanned⟩ | ⟨kept | ⟨-, outside⟩, scanned⟩ | ⟨-, -, scanned⟩ | ⟨other, tried, scanned⟩ <;>
      rw [scanned] at malformed
    · rw [Plain.scan_found tried inside, Scan.prepend_eq_malformed]
      exact ih size (Scan.prepend_eq_malformed.1 malformed)
    · rw [Plain.scan_kept kept, Scan.prepend_eq_malformed]
      exact ih 0 (Scan.prepend_eq_malformed.1 malformed)
    · cases outside
    · cases malformed
    · cases malformed
      exact Plain.scan_malformed tried
  | symbol s rest open_ bare other ih =>
    rw [Plain.scan_symbol open_ bare other, Scan.prepend_eq_malformed] at malformed
    rw [Plain.scan_symbol (fun _ => rfl) bare other, Scan.prepend_eq_malformed]
    exact ih malformed

/-- If a walk below leads to a fault, a whole text has a fault, and none before it. -/
theorem exists_fault_le {target : Spot} {other : Fault} (faulty : target.Faulty other) {text : Text}
    {position : Nat}
    (walks : Below limit known ⟨limit, position, text⟩ target) :
    ∃ fault, Plain.scan (Plain.attempt limit) false 0 text position = .malformed fault ∧ fault.position ≤ target.position := by
  induction text using scanInduction false generalizing position with
  | ended =>
    obtain ⟨few, le, walk⟩ := walks
    rcases walk.cases_head with rfl | ⟨next, step, -⟩
    · obtain ⟨after, defect, size, text, -⟩ := faulty
      cases text
    · cases step
  | closing rest inside => cases inside
  | escape rest ih =>
    rw [Plain.scan_escape]
    simpa using ih (passes_escape.2 target faulty.blocks walks)
  | dollar rest ih =>
    rcases Plain.scan_dollar (Plain.attempt_fits limit) false position rest with
      ⟨node, size, starts, tried, -, scanned⟩ | ⟨kept | ⟨unterminated, -⟩, scanned⟩ | ⟨-, inside, -⟩ | ⟨fault, tried, scanned⟩
    · rw [scanned]
      simpa using ih size ((passes_found (Nat.le_refl limit) tried).2 target faulty.blocks walks)
    · rw [scanned]
      simpa using ih 0 ((passes_kept kept).2 target faulty.blocks walks)
    · rw [scanned]
      rcases below_text (incomplete_of_unterminated unterminated) walks with ⟨place, le, text⟩ | after
      · obtain ⟨after, defect, size, text', live, opening, -⟩ := faulty
        rw [text] at text'
        cases text'
        obtain ⟨lower, rfl⟩ : ∃ lower, limit = lower + 1 := ⟨limit - 1, by omega⟩
        rw [Plain.attempt_malformed opening] at unterminated
        cases unterminated
      · simpa using ih 0 after
    · cases inside
    · exact ⟨fault, scanned, fault_position_le (Nat.le_refl limit) faulty (Plain.scan_malformed tried) walks⟩
  | symbol s rest open_ bare other ih =>
    rw [Plain.scan_symbol open_ bare other]
    by_cases brace : s = .char '}'
    · subst brace
      have after := passes_closing.2 target faulty.blocks walks
      rw [Nat.min_eq_right (Nat.le_succ limit)] at after
      simpa using ih after
    · simpa using ih ((passes_symbol brace bare other).2 target faulty.blocks walks)

end

end ShellTemplate
