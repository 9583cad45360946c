import ShellTemplate.Proofs.Offsets
import ShellTemplate.Proofs.Traces

/-!
# What is remarked

A remark may come of an attempt that is given up, and a `$` that is remembered is passed without one. The remarks
agree with the template all the same. That no expression begins at a `$` is told by the symbols after it, so it holds in
every attempt (`AbsentAt`); that one is cut off is only remarked outside bodies, where the `$` is kept for good; and
what is remembered lies behind a `$` that is remarked on (`Reported`).
-/

namespace ShellTemplate

namespace Remark

/-- The offset that a remark names. -/
def position : Remark → Nat
  | .noExpression position => position
  | .unterminated position => position

/-- The offset of the expression that is cut off, if the remark is on one. -/
def cutOff? : Remark → Option Nat
  | .noExpression _ => none
  | .unterminated position => some position

end Remark

namespace Template

/-- Whether no expression begins at the `$` at an offset of a text that begins at `position`. -/
def AbsentAt (text : Text) (position offset : Nat) : Prop :=
  ∃ after, TailAt text position offset (.char '$' :: after) ∧ Opening.read after = .absent

theorem AbsentAt.append (front : Text) {text : Text} {position offset : Nat}
    (absent : AbsentAt text (position + front.length) offset) : AbsentAt (front ++ text) position offset := by
  obtain ⟨after, there, opening⟩ := absent
  exact ⟨after, there.append front, opening⟩

theorem AbsentAt.not_beginsAt {text : Text} {position offset : Nat} {node : Node} (absent : AbsentAt text position offset) :
    ¬ BeginsAt text position offset node := by
  rintro ⟨after, levels, size, starts, there, found⟩
  obtain ⟨other, here, opening⟩ := absent
  cases there.eq here
  rw [Plain.attempt_absent opening] at found
  cases found

/-! ## In bodies -/

/-- What reading a part of a text leaves in a trace: remarks that no expression begins at a `$` of it, and offsets of it to
    remember, of which there are none if the reading is `settled`, that is, if nothing is given up. -/
structure Leaves (text : Text) (position : Nat) (settled : Prop) (trace trace' : Trace) : Prop where
  remarks : ∃ fresh, trace'.remarks = fresh ++ trace.remarks ∧
    ∀ remark ∈ fresh, ∃ offset, remark = .noExpression offset ∧ AbsentAt text position offset
  remembered : ∃ fresh, trace'.unterminated = fresh ++ trace.unterminated ∧ (∀ offset ∈ fresh, position ≤ offset) ∧
    (settled → fresh = [])

namespace Leaves

variable {text : Text} {position : Nat} {settled : Prop} {trace trace' trace'' : Trace}

theorem refl (text : Text) (position : Nat) (settled : Prop) (trace : Trace) : Leaves text position settled trace trace :=
  ⟨⟨[], rfl, by simp⟩, [], rfl, by simp, fun _ => rfl⟩

theorem imp {other : Prop} (leaves : Leaves text position settled trace trace') (settles : other → settled) :
    Leaves text position other trace trace' := by
  obtain ⟨remarks, fresh, remembered, behind, none⟩ := leaves
  exact ⟨remarks, fresh, remembered, behind, fun holds => none (settles holds)⟩

theorem trans (first : Leaves text position True trace trace') (later : Leaves text position settled trace' trace'') :
    Leaves text position settled trace trace'' := by
  obtain ⟨⟨early, remarks, absent⟩, own, remembered, -, none⟩ := first
  obtain ⟨⟨late, remarks', absent'⟩, fresh, remembered', behind, none'⟩ := later
  cases none trivial
  refine ⟨⟨late ++ early, by rw [remarks', remarks, List.append_assoc], ?_⟩, fresh, ?_, behind, none'⟩
  · intro remark member
    rcases List.mem_append.1 member with new | old
    · exact absent' remark new
    · exact absent remark old
  · rw [remembered', remembered]
    rfl

theorem append (front : Text) (leaves : Leaves text (position + front.length) settled trace trace') :
    Leaves (front ++ text) position settled trace trace' := by
  obtain ⟨⟨fresh, remarks, absent⟩, own, remembered, behind, none⟩ := leaves
  refine ⟨⟨fresh, remarks, ?_⟩, own, remembered, fun offset member => Nat.le_of_add_right_le (behind offset member), none⟩
  intro remark member
  obtain ⟨offset, same, here⟩ := absent remark member
  exact ⟨offset, same, here.append front⟩

theorem addRemark {after : Text} (opening : Opening.read after = .absent) (settled : Prop) (trace : Trace) :
    Leaves (.char '$' :: after) position settled trace (trace.addRemark (.noExpression position)) := by
  refine ⟨⟨[.noExpression position], rfl, ?_⟩, [], rfl, by simp, fun _ => rfl⟩
  intro remark member
  exact ⟨position, List.mem_singleton.1 member, after, .here _ _, opening⟩

theorem addUnterminated (leaves : Leaves text position settled trace trace') :
    Leaves text position False trace (trace'.addUnterminated position) := by
  obtain ⟨remarks, fresh, remembered, behind, -⟩ := leaves
  refine ⟨remarks, position :: fresh, ?_, ?_, False.elim⟩
  · rw [Trace.addUnterminated, remembered]
    rfl
  · intro offset member
    rcases List.mem_cons.1 member with rfl | later
    · exact Nat.le_refl _
    · exact behind offset later

/-- What is left in the order in which it was remarked. -/
theorem fresh (leaves : Leaves text position settled trace trace') :
    ∃ fresh : List Remark, trace'.remarks = fresh.reverse ++ trace.remarks ∧
      (∀ offset, .noExpression offset ∈ fresh → AbsentAt text position offset) ∧ fresh.filterMap Remark.cutOff? = [] := by
  obtain ⟨⟨fresh, remarks, absent⟩, -⟩ := leaves
  refine ⟨fresh.reverse, by rw [remarks, List.reverse_reverse], ?_, ?_⟩
  · intro offset member
    obtain ⟨other, same, here⟩ := absent _ (List.mem_reverse.1 member)
    cases same
    exact here
  · rw [List.filterMap_eq_nil_iff]
    intro remark member
    obtain ⟨offset, rfl, -⟩ := absent remark (List.mem_reverse.1 member)
    rfl

end Leaves

/-- What comes of an attempt, and what it leaves in the trace. -/
inductive Told (inBody : Bool) (position : Nat) (after : Text) (trace : Trace) : Attempt × Trace → Prop
  | known (member : position ∈ trace.unterminated) : Told inBody position after trace (.kept, trace)
  | absent (opening : Opening.read after = .absent) :
      Told inBody position after trace (.kept, trace.addRemark (.noExpression position))
  | found {node : Node} {size : Nat} {starts : List Nat} {trace' : Trace}
      (leaves : Leaves (.char '$' :: after) position True trace trace') :
      Told inBody position after trace (.found node size starts, trace')
  | given_up {trace' : Trace} (leaves : Leaves (.char '$' :: after) position False trace trace') :
      Told inBody position after trace (giveUp inBody position trace')
  | malformed {fault : Fault} {trace' : Trace} (leaves : Leaves (.char '$' :: after) position True trace trace') :
      Told inBody position after trace (.malformed fault, trace')

/-- What the attempts of a body leave, its scan leaves. -/
theorem leaves_scan {attempt : Nat → Text → Trace → Attempt × Trace}
    (leaves : ∀ position after trace, Leaves (.char '$' :: after) position
      ((attempt position after trace).1 ≠ .unterminated) trace (attempt position after trace).2)
    (done : List Piece) (skip : Nat) (text : Text) (position : Nat) (trace : Trace) :
    Leaves text position ((scan attempt true done skip text position trace).1 ≠ .unterminated) trace
      (scan attempt true done skip text position trace).2 := by
  induction text generalizing done skip position trace with
  | nil => exact .refl _ _ _ _
  | cons s rest ih =>
    cases skip with
    | succ skip => exact (ih done skip (position + 1) trace).append [s]
    | zero =>
      rw [scan]
      split
      · exact .refl _ _ _ _
      · split
        · exact (ih _ 1 (position + 1) trace).append [s]
        · split
          · rename_i dollar
            have own := leaves position rest trace
            rw [dollar]
            split <;> rename_i tried <;> rw [tried] at own
            · exact (own.imp (by simp)).trans ((ih _ _ (position + 1) _).append [.char '$'])
            · exact (own.imp (by simp)).trans ((ih _ 0 (position + 1) _).append [.char '$'])
            · exact own.imp (by simp)
            · exact own.imp (by simp)
          · exact (ih _ 0 (position + 1) trace).append [s]

theorem attempt_told {levels : Nat}
    (bodies : ∀ text position trace, Leaves text position
      ((scan (attempt levels true) true [] 0 text position trace).1 ≠ .unterminated) trace
      (scan (attempt levels true) true [] 0 text position trace).2)
    (inBody : Bool) (position : Nat) (after : Text) (trace : Trace) :
    Told inBody position after trace (attempt (levels + 1) inBody position after trace) := by
  by_cases member : position ∈ trace.unterminated
  · rw [attempt_known member]
    exact .known member
  · have shape := Opening.read_shape after
    cases opening : Opening.read after with
    | absent =>
      have noted : attempt (levels + 1) inBody position after trace = (.kept, trace.addRemark (.noExpression position)) := by
        simp [attempt, member, opening]
      rw [noted]
      exact .absent opening
    | unterminated =>
      rw [attempt_cut_off member opening]
      exact .given_up (.refl _ _ _ _)
    | malformed defect size =>
      rw [attempt_malformed member opening]
      exact .malformed (.refl _ _ _ _)
    | complete name operator size =>
      rw [attempt_complete member opening]
      exact .found (.refl _ _ _ _)
    | default name trigger size =>
      rw [opening] at shape
      obtain ⟨named, rfl, body, rfl⟩ := shape
      rw [attempt_start inBody named member]
      split
      · have inside := bodies body (position + 1 + (Opening.start name trigger).length) trace
        generalize scan (attempt levels true) true [] 0 body (position + 1 + (Opening.start name trigger).length) trace = scanned at inside ⊢
        obtain ⟨result, trace'⟩ := scanned
        rw [Nat.add_assoc, Nat.add_comm 1] at inside
        have leaves := inside.append (.char '$' :: Opening.start name trigger)
        cases result with
        | closed pieces stop => exact .found (leaves.imp (by simp))
        | unterminated => exact .given_up (leaves.imp (by simp))
        | malformed fault => exact .malformed (leaves.imp (by simp))
      · exact .given_up (.refl _ _ _ _)

theorem leaves_attempt (levels position : Nat) (after : Text) (trace : Trace) :
    Leaves (.char '$' :: after) position ((attempt levels true position after trace).1 ≠ .unterminated) trace
      (attempt levels true position after trace).2 := by
  induction levels generalizing position after trace with
  | zero => exact .refl _ _ _ _
  | succ levels ih =>
    have told := attempt_told (leaves_scan ih [] 0) true position after trace
    generalize attempt (levels + 1) true position after trace = result at told ⊢
    cases told with
    | known member => exact .refl _ _ _ _
    | absent opening => exact .addRemark opening _ _
    | found leaves => exact leaves.imp (by simp)
    | given_up leaves => exact leaves.addUnterminated.imp (by simp [giveUp])
    | malformed leaves => exact leaves.imp (by simp)

/-! ## Outside bodies -/

/-- Whether everything that is remembered lies at or behind an offset that is remarked to be cut off. -/
def Reported (trace : Trace) : Prop :=
  ∀ offset ∈ trace.unterminated, ∃ earlier ≤ offset, .unterminated earlier ∈ trace.remarks

/-- Whether there is a remark on an offset, or one in front of it is remarked to be cut off. -/
def Noted (remarks : List Remark) (offset : Nat) : Prop :=
  (∃ remark ∈ remarks, remark.position = offset) ∨ ∃ earlier < offset, .unterminated earlier ∈ remarks

theorem Noted.mono {remarks more : List Remark} (subset : remarks ⊆ more) {offset : Nat} (noted : Noted remarks offset) :
    Noted more offset := by
  rcases noted with ⟨remark, member, same⟩ | ⟨earlier, less, member⟩
  · exact .inl ⟨remark, subset member, same⟩
  · exact .inr ⟨earlier, less, subset member⟩

/-- What is remarked on a text that begins at `position` and in which the dollar signs at `kept` are kept. -/
structure Remarked (text : Text) (position : Nat) (kept : List Nat) (trace trace' : Trace) : Prop where
  fresh : ∃ fresh : List Remark, trace'.remarks = fresh.reverse ++ trace.remarks ∧
    (∀ offset, .noExpression offset ∈ fresh → AbsentAt text position offset) ∧
    (fresh.filterMap Remark.cutOff?).Sublist kept
  noted : ∀ offset ∈ kept, Noted trace'.remarks offset
  reported : Reported trace'

namespace Remarked

variable {text : Text} {position : Nat} {kept more : List Nat} {trace trace' trace'' : Trace}

theorem remarks_subset (remarked : Remarked text position kept trace trace') : trace.remarks ⊆ trace'.remarks := by
  obtain ⟨fresh, remarks, -⟩ := remarked.fresh
  rw [remarks]
  exact List.subset_append_right _ _

theorem trans (first : Remarked text position kept trace trace') (later : Remarked text position more trace' trace'') :
    Remarked text position (kept ++ more) trace trace'' := by
  obtain ⟨early, remarks, absent, ordered⟩ := first.fresh
  obtain ⟨late, remarks', absent', ordered'⟩ := later.fresh
  refine ⟨⟨early ++ late, ?_, ?_, ?_⟩, ?_, later.reported⟩
  · rw [remarks', remarks, List.reverse_append, List.append_assoc]
  · intro offset member
    rcases List.mem_append.1 member with old | new
    · exact absent offset old
    · exact absent' offset new
  · rw [List.filterMap_append]
    exact ordered.append ordered'
  · intro offset member
    rcases List.mem_append.1 member with old | new
    · exact (first.noted offset old).mono later.remarks_subset
    · exact later.noted offset new

theorem append (front : Text) (remarked : Remarked text (position + front.length) kept trace trace') :
    Remarked (front ++ text) position kept trace trace' := by
  obtain ⟨⟨fresh, remarks, absent, ordered⟩, noted, reported⟩ := remarked
  exact ⟨⟨fresh, remarks, fun offset member => (absent offset member).append front, ordered⟩, noted, reported⟩

section
variable (reported : Reported trace)
include reported

theorem refl (text : Text) (position : Nat) : Remarked text position [] trace trace :=
  ⟨⟨[], rfl, by simp, .refl _⟩, by simp, reported⟩

/-- A `$` that is remembered lies behind one that is remarked on. -/
theorem known (text : Text) (member : position ∈ trace.unterminated) : Remarked text position [position] trace trace := by
  refine ⟨⟨[], rfl, by simp, List.nil_sublist _⟩, ?_, reported⟩
  intro offset here
  rw [List.mem_singleton.1 here]
  obtain ⟨earlier, le, remark⟩ := reported position member
  rcases Nat.eq_or_lt_of_le le with rfl | less
  · exact .inl ⟨_, remark, rfl⟩
  · exact .inr ⟨earlier, less, remark⟩

theorem absent {after : Text} (opening : Opening.read after = .absent) :
    Remarked (.char '$' :: after) position [position] trace (trace.addRemark (.noExpression position)) := by
  refine ⟨⟨[.noExpression position], rfl, ?_, List.nil_sublist _⟩, ?_, ?_⟩
  · intro offset member
    cases List.mem_singleton.1 member
    exact ⟨after, .here _ _, opening⟩
  · intro offset here
    exact .inl ⟨_, List.mem_cons_self, (List.mem_singleton.1 here).symm⟩
  · intro offset member
    obtain ⟨earlier, le, remark⟩ := reported offset member
    exact ⟨earlier, le, List.mem_cons_of_mem _ remark⟩

/-- What a body leaves, with nothing given up. -/
theorem of_leaves (leaves : Leaves text position True trace trace') : Remarked text position [] trace trace' := by
  obtain ⟨fresh, remarks, absent, silent⟩ := leaves.fresh
  obtain ⟨-, own, remembered, -, none⟩ := leaves
  cases none trivial
  refine ⟨⟨fresh, remarks, absent, by rw [silent]⟩, by simp, ?_⟩
  intro offset member
  rw [remembered, List.nil_append] at member
  obtain ⟨earlier, le, remark⟩ := reported offset member
  rw [remarks]
  exact ⟨earlier, le, List.mem_append_right _ remark⟩

/-- A `$` that is given up is remarked on, and everything that is remembered of its body lies behind it. -/
theorem given_up (leaves : Leaves text position False trace trace') :
    Remarked text position [position] trace ((trace'.addUnterminated position).addRemark (.unterminated position)) := by
  obtain ⟨fresh, remarks, absent, silent⟩ := leaves.fresh
  obtain ⟨-, own, remembered, behind, -⟩ := leaves
  refine ⟨⟨fresh ++ [.unterminated position], ?_, ?_, ?_⟩, ?_, ?_⟩
  · simp [Trace.addRemark, Trace.addUnterminated, remarks]
  · intro offset member
    exact absent offset (by simpa using member)
  · rw [List.filterMap_append, silent]
    exact .refl _
  · intro offset here
    exact .inl ⟨_, List.mem_cons_self, (List.mem_singleton.1 here).symm⟩
  · intro offset member
    simp only [Trace.addRemark, Trace.addUnterminated, remembered, List.mem_cons, List.mem_append] at member
    rcases member with rfl | inside | old
    · exact ⟨offset, Nat.le_refl _, List.mem_cons_self⟩
    · exact ⟨position, behind offset inside, List.mem_cons_self⟩
    · obtain ⟨earlier, le, remark⟩ := reported offset old
      refine ⟨earlier, le, List.mem_cons_of_mem _ ?_⟩
      rw [Trace.addUnterminated, remarks]
      exact List.mem_append_right _ remark

end

end Remarked

/-- What is remarked on a text outside bodies that is read to its end. -/
theorem remarked_scan (levels : Nat) {done : List Piece} {skip : Nat} {text : Text} {position : Nat} {trace trace' : Trace}
    {pieces : List Piece} {stop : Nat} (reported : Reported trace)
    (scanned : scan (attempt (levels + 1) false) false done skip text position trace = (.closed pieces stop, trace')) :
    ∃ more, pieces = done.reverse ++ more ∧ Remarked text position (keptDollars (position + skip) more) trace trace' := by
  induction text generalizing done skip position trace with
  | nil =>
    cases scanned
    exact ⟨[], (List.append_nil _).symm, .refl reported _ _⟩
  | cons s rest ih =>
    cases skip with
    | succ skip =>
      obtain ⟨more, split, remarked⟩ := ih reported scanned
      rw [Nat.add_assoc, Nat.add_comm 1] at remarked
      exact ⟨more, split, remarked.append [s]⟩
    | zero =>
      rw [scan] at scanned
      split at scanned
      · rename_i closing
        simp at closing
      · split at scanned
        · obtain ⟨more, rfl, remarked⟩ := ih reported scanned
          exact ⟨.escapedDollar :: more, by simp, remarked.append [s]⟩
        · split at scanned
          · rename_i dollar
            subst dollar
            -- However it comes that the `$` is kept, what is remarked on it stands in front of what follows.
            have kept {middle : Trace} (own : Remarked (.char '$' :: rest) position [position] trace middle)
                (further : scan (attempt (levels + 1) false) false (.symbol (.char '$') :: done) 0 rest (position + 1) middle =
                  (.closed pieces stop, trace')) :
                ∃ more, pieces = done.reverse ++ more ∧
                  Remarked (.char '$' :: rest) position (keptDollars (position + 0) more) trace trace' := by
              obtain ⟨more, rfl, remarked⟩ := ih own.reported further
              refine ⟨.symbol (.char '$') :: more, by simp, ?_⟩
              rw [keptDollars_dollar]
              exact own.trans (remarked.append [.char '$'])
            have told := attempt_told (leaves_scan (leaves_attempt levels) [] 0) false position rest trace
            generalize attempt (levels + 1) false position rest trace = result at told scanned
            cases told with
            | known member => exact kept (.known reported _ member) scanned
            | absent opening => exact kept (.absent reported opening) scanned
            | @found node size starts _ leaves =>
              have own := Remarked.of_leaves reported leaves
              obtain ⟨more, rfl, remarked⟩ := ih own.reported scanned
              refine ⟨.expression node (size + 1) starts :: more, by simp, ?_⟩
              rw [Nat.add_assoc, Nat.add_comm 1] at remarked
              exact own.trans (remarked.append [.char '$'])
            | given_up leaves => exact kept (.given_up reported leaves) scanned
            | malformed leaves => cases scanned
          · rename_i other
            obtain ⟨more, rfl, remarked⟩ := ih reported scanned
            refine ⟨.symbol s :: more, by simp, ?_⟩
            rw [keptDollars_symbol other]
            exact remarked.append [s]

/-- What is remarked on a text that is read. -/
theorem remarked_read {text : Text} {pieces : List Piece} (ended : (read text).pieces = .ok pieces) :
    (∀ offset, .noExpression offset ∈ (read text).remarks → AbsentAt text 0 offset) ∧
      ((read text).remarks.filterMap Remark.cutOff?).Sublist (keptDollars 0 pieces) ∧
      ∀ offset ∈ keptDollars 0 pieces, Noted (read text).remarks offset := by
  obtain ⟨stop, scanned⟩ := read_pieces_eq_ok_iff.1 ended
  have reported : Reported .empty := fun offset member => by cases member
  obtain ⟨more, rfl, ⟨fresh, remarks, absent, ordered⟩, noted, -⟩ := remarked_scan 31 reported (Prod.ext scanned rfl)
  have made : (read text).remarks = fresh := by
    have turned : (read text).remarks = (fresh.reverse ++ []).reverse := congrArg List.reverse remarks
    rw [turned, List.append_nil, List.reverse_reverse]
  rw [made]
  refine ⟨absent, ordered, fun offset member => (noted offset member).mono ?_⟩
  rw [remarks]
  simp [Trace.empty]

/-- What is remarked on a text agrees with the template that it is read to. The remarks on expressions cut off name
    offsets one behind the other; no remark names an offset at which an expression of the template begins; and every `$`
    that is kept outside bodies is remarked on, or lies behind one whose expression is remarked to be cut off. -/
theorem remarks_agree {text : Text} {template : Template} (parsed : parse text = .ok template) :
    ∃ pieces, (read text).pieces = .ok pieces ∧ PiecesOf text template pieces ∧
      ((read text).remarks.filterMap Remark.cutOff?).Pairwise (· < ·) ∧
      (∀ remark ∈ (read text).remarks, remark.position ∉ pieces.flatMap Piece.starts) ∧
      ∀ offset ∈ keptDollars 0 pieces,
        (∃ remark ∈ (read text).remarks, remark.position = offset) ∨
          ∃ earlier < offset, .unterminated earlier ∈ (read text).remarks := by
  obtain ⟨pieces, ended, rfl⟩ : ∃ pieces, (read text).pieces = .ok pieces ∧ ofPieces pieces = template := by
    rw [parse, Reading.template] at parsed
    cases ended : (read text).pieces with
    | ok pieces =>
      rw [ended] at parsed
      cases parsed
      exact ⟨pieces, rfl, rfl⟩
    | error fault =>
      rw [ended] at parsed
      cases parsed
  obtain ⟨absent, ordered, noted⟩ := remarked_read ended
  have cut := piecesOf_read ended
  refine ⟨pieces, ended, cut, (keptDollars_ordered 0 pieces).sublist ordered, ?_, noted⟩
  intro remark member start
  cases remark with
  | noExpression offset =>
    obtain ⟨node, begins⟩ := BeginsAt.of_mem cut.begins start
    exact (absent offset member).not_beginsAt begins
  | unterminated offset =>
    have reported : offset ∈ (read text).remarks.filterMap Remark.cutOff? := List.mem_filterMap.2 ⟨_, member, rfl⟩
    exact not_mem_keptDollars_of_read ended start (ordered.subset reported)

/-- A body that is given up and scanned again, with a `$` that is remarked on in both scans and one that is remembered. -/
theorem remarks_agree_given_up :
    let text := Text.ofString "$\x7ba=$\x7bb=$-\x7d $\x7bc="
    let template : Template :=
      [.literal (Text.ofString "$\x7ba="), .default [.char 'b'] .unset [.literal (Text.ofString "$-")],
        .literal (Text.ofString " $\x7bc=")]
    (read text).remarks = [.noExpression 8, .unterminated 0, .noExpression 8] ∧ parse text = .ok template ∧
      ∃ pieces, (read text).pieces = .ok pieces ∧ PiecesOf text template pieces ∧
        ((read text).remarks.filterMap Remark.cutOff?).Pairwise (· < ·) ∧
        (∀ remark ∈ (read text).remarks, remark.position ∉ pieces.flatMap Piece.starts) ∧
        ∀ offset ∈ keptDollars 0 pieces,
          (∃ remark ∈ (read text).remarks, remark.position = offset) ∨
            ∃ earlier < offset, .unterminated earlier ∈ (read text).remarks := by
  intro text template
  have parsed : parse text = .ok template := rfl
  exact ⟨by decide, parsed, remarks_agree parsed⟩

end Template

end ShellTemplate
