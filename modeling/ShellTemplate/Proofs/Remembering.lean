import ShellTemplate.Proofs.Walks
import ShellTemplate.Template.Reading

/-!
# What reading remembers

A `$` that is remembered as unterminated was tried in a body that is given up, with no more levels than
are left where it is met again (`Recalls`). So a body in which it is taken for text is given up as well,
and a whole text that is read is read as it would be with nothing remembered.
-/

namespace ShellTemplate

namespace Template

section
variable {attempt : Nat → Text → Trace → Attempt × Trace} {inBody : Bool} {position : Nat} {trace : Trace}

theorem scan_skip {skip : Nat} {text : Text} (fits : skip ≤ text.length) (position : Nat) (done : List Piece)
    (trace : Trace) :
    scan attempt inBody done skip text position trace =
      scan attempt inBody done 0 (text.drop skip) (position + skip) trace := by
  induction skip generalizing text position with
  | zero => rfl
  | succ skip ih =>
    cases text with
    | nil => cases fits
    | cons s rest =>
      simp only [List.length_cons, Nat.add_le_add_iff_right] at fits
      rw [scan, ih fits, List.drop_succ_cons, Nat.add_assoc, Nat.add_comm 1]

@[simp] theorem scan_closing (rest : Text) :
    scan attempt true [] 0 (.char '}' :: rest) position trace = (.closed [] position, trace) := by
  simp [scan]

theorem scan_escape (rest : Text) :
    scan attempt inBody [] 0 (.char '\\' :: .char '$' :: rest) position trace =
      (scan attempt inBody [] 0 rest (position + 2) trace).map (Scan.prepend [.escapedDollar]) id := by
  have escaped : scan attempt inBody [] 0 (.char '\\' :: .char '$' :: rest) position trace =
      scan attempt inBody [.escapedDollar] 0 rest (position + 2) trace := by simp [scan]
  rw [escaped, scan_eq_prepend]
  rfl

theorem scan_symbol {s : Symbol} {rest : Text} (open_ : s = .char '}' → inBody = false)
    (bare : s = .char '\\' → rest.head? ≠ some (.char '$')) (other : s ≠ .char '$') :
    scan attempt inBody [] 0 (s :: rest) position trace =
      (scan attempt inBody [] 0 rest (position + 1) trace).map (Scan.prepend [.symbol s]) id := by
  have escape : ¬ (s = .char '\\' && rest.head? = some (.char '$')) = true := by simpa using bare
  rw [scan, if_neg (Symbol.not_eq_and open_), if_neg escape, if_neg other, scan_eq_prepend]
  rfl

theorem scan_kept {rest : Text} {after : Trace} (kept : attempt position rest trace = (.kept, after)) :
    scan attempt inBody [] 0 (.char '$' :: rest) position trace =
      (scan attempt inBody [] 0 rest (position + 1) after).map (Scan.prepend [.symbol (.char '$')]) id := by
  have text : scan attempt inBody [] 0 (.char '$' :: rest) position trace =
      scan attempt inBody [.symbol (.char '$')] 0 rest (position + 1) after := by simp [scan, kept]
  rw [text, scan_eq_prepend]
  rfl

theorem scan_found {rest : Text} {node : Node} {size : Nat} {starts : List Nat} {after : Trace}
    (found : attempt position rest trace = (.found node size starts, after)) (fits : size ≤ rest.length) :
    scan attempt inBody [] 0 (.char '$' :: rest) position trace =
      (scan attempt inBody [] 0 (rest.drop size) (position + 1 + size) after).map
        (Scan.prepend [.expression node (size + 1) starts]) id := by
  have passed : scan attempt inBody [] 0 (.char '$' :: rest) position trace =
      scan attempt inBody [.expression node (size + 1) starts] size rest (position + 1) after := by simp [scan, found]
  rw [passed, scan_skip fits, scan_eq_prepend]
  rfl

theorem scan_unterminated {rest : Text} {after : Trace}
    (unterminated : attempt position rest trace = (.unterminated, after)) :
    scan attempt inBody [] 0 (.char '$' :: rest) position trace = (.unterminated, after) := by
  simp [scan, unterminated]

theorem scan_malformed {rest : Text} {fault : Fault} {after : Trace}
    (malformed : attempt position rest trace = (.malformed fault, after)) :
    scan attempt inBody [] 0 (.char '$' :: rest) position trace = (.malformed fault, after) := by
  simp [scan, malformed]

end

section
variable {levels position : Nat} {inBody : Bool} {after : Text} {trace : Trace}

@[simp] theorem attempt_zero : attempt 0 inBody position after trace = (.kept, trace) := rfl

theorem attempt_known (member : position ∈ trace.unterminated) :
    attempt levels inBody position after trace = (.kept, trace) := by
  cases levels <;> simp [attempt, member]

theorem attempt_absent (levels : Nat) (inBody : Bool) (position : Nat) (trace : Trace)
    (opening : Opening.read after = .absent) :
    ∃ trace', trace'.unterminated = trace.unterminated ∧ attempt levels inBody position after trace = (.kept, trace') := by
  cases levels with
  | zero => exact ⟨trace, rfl, rfl⟩
  | succ levels =>
    by_cases member : position ∈ trace.unterminated
    · exact ⟨trace, rfl, attempt_known member⟩
    · exact ⟨trace.addRemark (.noExpression position), rfl, by simp [attempt, member, opening]⟩

section
variable (fresh : position ∉ trace.unterminated)
include fresh

theorem attempt_cut_off (opening : Opening.read after = .unterminated) :
    attempt (levels + 1) inBody position after trace = giveUp inBody position trace := by
  simp [attempt, fresh, opening]

theorem attempt_malformed {defect : Defect} {size : Nat}
    (opening : Opening.read after = .malformed defect size) :
    attempt (levels + 1) inBody position after trace =
      (.malformed ⟨defect, .char '$' :: after.take size, position⟩, trace) := by
  simp [attempt, fresh, opening]

theorem attempt_complete {name : Text} {operator : Operator} {size : Nat}
    (opening : Opening.read after = .complete name operator size) :
    attempt (levels + 1) inBody position after trace = (.found (.expression name operator) size [position], trace) := by
  simp [attempt, fresh, opening]

end

/-- What becomes of the default at an offset, by the scan of its body. -/
def afterBody (inBody : Bool) (position : Nat) (name : Text) (trigger : Trigger) : Scan × Trace → Attempt × Trace
  | (.closed pieces stop, trace) =>
    (.found (.default name trigger (ofPieces pieces)) (stop - position) (position :: pieces.flatMap Piece.starts), trace)
  | (.unterminated, trace) => giveUp inBody position trace
  | (.malformed fault, trace) => (.malformed fault, trace)

theorem attempt_start {name body : Text} {trigger : Trigger} (inBody : Bool) (named : name.isName)
    (fresh : position ∉ trace.unterminated) :
    attempt (levels + 1) inBody position (Opening.start name trigger ++ body) trace =
      if .char '}' ∈ body then
        afterBody inBody position name trigger
          (scan (attempt levels true) true [] 0 body (position + 1 + (Opening.start name trigger).length) trace)
      else giveUp inBody position trace := by
  simp only [attempt, List.contains_iff_mem, fresh, if_false, Opening.read_start named trigger body, List.drop_left]
  split
  · split <;> rename_i scanned <;> rw [scanned] <;> rfl
  · rfl

theorem giveUp_outside (position : Nat) (trace : Trace) :
    ∃ trace', trace'.unterminated = position :: trace.unterminated ∧ giveUp false position trace = (.kept, trace') :=
  ⟨_, rfl, rfl⟩

end

end Template

/-- Whether whatever is remembered of the text from a spot on was tried below it. -/
def Recalls (limit : Nat) (known : List Nat) (here : Spot) : Prop :=
  ∀ position ∈ known, here.position ≤ position →
    ∃ target : Spot, target.position = position ∧ target.Unending ∧ Below limit known here target

section
variable {limit : Nat} {known : List Nat} {levels position : Nat}

theorem Recalls.passes {here there : Spot} (recalls : Recalls limit known here)
    (passes : Passes limit known here there) :
    Recalls limit known there := by
  intro position member le
  obtain ⟨target, same, unending, below⟩ := recalls position member (Nat.le_trans passes.1.position_le le)
  exact ⟨target, same, unending, passes.2 target unending.blocks below⟩

/-- Over a `$` that begins no whole expression without a body, what is remembered stays so. -/
theorem Recalls.text {rest : Text}
    (incomplete : ∀ name operator size, Opening.read rest ≠ .complete name operator size)
    (recalls : Recalls limit known ⟨levels, position, .char '$' :: rest⟩) :
    Recalls limit known ⟨levels, position + 1, rest⟩ := by
  intro later member le
  simp only at le
  obtain ⟨target, rfl, unending, below⟩ := recalls later member (by simp only; omega)
  rcases below_text incomplete below with ⟨place, -⟩ | after
  · omega
  · exact ⟨target, rfl, unending, after⟩

/-- Into the body of a default that is not remembered itself, what is remembered stays so. -/
theorem Recalls.enter {name body : Text} {trigger : Trigger} (named : name.isName) (fresh : position ∉ known)
    (recalls : Recalls limit known ⟨levels + 1, position, .char '$' :: (Opening.start name trigger ++ body)⟩) :
    Recalls limit known ⟨levels, position + 1 + (Opening.start name trigger).length, body⟩ := by
  intro later member le
  simp only at le
  obtain ⟨target, rfl, unending, below⟩ := recalls later member (by simp only; omega)
  rcases below_default named unending.blocks below with ⟨place, -⟩ | inside | ⟨known, -⟩
  · exact absurd (place ▸ member) fresh
  · exact ⟨target, rfl, unending, inside⟩
  · exact absurd known fresh

/-- What was tried in a body that is given up may be remembered for the text after its `$`. -/
theorem Recalls.give_up {rest : Text} {fresh : List Nat}
    (incomplete : ∀ name operator size, Opening.read rest ≠ .complete name operator size)
    (reached : ∀ later ∈ fresh, ∃ target : Spot,
      target.position = later ∧ target.Unending ∧ Walk limit known ⟨levels, position, .char '$' :: rest⟩ target)
    (recalls : Recalls limit known ⟨levels, position, .char '$' :: rest⟩) :
    Recalls limit (position :: (fresh ++ known)) ⟨levels, position + 1, rest⟩ := by
  have subset : known ⊆ position :: (fresh ++ known) := fun later member => by simp [member]
  intro later member le
  simp only [List.mem_cons, List.mem_append] at member le
  rcases member with rfl | new | old
  · omega
  · obtain ⟨target, rfl, unending, walk⟩ := reached later new
    rcases below_text incomplete (.of_walk walk) with ⟨place, -⟩ | after
    · omega
    · exact ⟨target, rfl, unending, after.mono subset⟩
  · obtain ⟨target, place, unending, below⟩ := recalls.text incomplete later old le
    exact ⟨target, place, unending, below.mono subset⟩

/-- A remembered `$` was tried with no more levels than are left where it is met again. -/
theorem Recalls.here {rest : Text} (recalls : Recalls limit known ⟨levels, position, .char '$' :: rest⟩)
    (member : position ∈ known) :
    ∃ few ≤ levels, Plain.attempt few position rest = .unterminated := by
  obtain ⟨target, place, ⟨after, text, unterminated⟩, few, le, walk⟩ := recalls position member (Nat.le_refl _)
  rcases walk.cases_head with rfl | ⟨next, step, walk⟩
  · cases text
    exact ⟨few, le, unterminated⟩
  · have later := Nat.lt_of_lt_of_le step.position_lt (Walk.position_le walk)
    simp only at later
    omega

/-- What comes of the scan of a body from a spot, where `known` is remembered, and what is remembered after it. A body
    that closes is read as if nothing were remembered, and nothing more is; what is remembered of one that never ends
    was tried on the way; and a walk leads to a fault, which is the first one if there are more levels than the text
    can use up. -/
inductive BodyRun (limit : Nat) (known : List Nat) (levels position : Nat) (text : Text) :
    Scan → List Nat → Prop
  | closed {pieces : List Piece} {stop : Nat}
      (plain : Plain.scan (Plain.attempt levels) true 0 text position = .closed pieces stop) :
      BodyRun limit known levels position text (.closed pieces stop) known
  | unterminated (fresh : List Nat)
      (plain : Plain.scan (Plain.attempt levels) true 0 text position = .unterminated)
      (reached : ∀ later ∈ fresh, ∃ target : Spot,
        target.position = later ∧ target.Unending ∧ Walk limit known ⟨levels, position, text⟩ target) :
      BodyRun limit known levels position text .unterminated (fresh ++ known)
  | malformed {fault : Fault} (target : Spot) {after : List Nat} (subset : known ⊆ after)
      (faulty : target.Faulty fault) (walk : Walk limit known ⟨levels, position, text⟩ target)
      (first : Plain.Shallow levels text → Plain.scan (Plain.attempt levels) true 0 text position = .malformed fault) :
      BodyRun limit known levels position text (.malformed fault) after

/-- What is read after a walk belongs to the body from its beginning on. -/
theorem BodyRun.prepend {front : List Piece} {text tail : Text} {further : Nat} {result : Scan}
    {after : List Nat}
    (walk : Walk limit known ⟨levels, position, text⟩ ⟨levels, further, tail⟩)
    (plain : Plain.scan (Plain.attempt levels) true 0 text position =
      (Plain.scan (Plain.attempt levels) true 0 tail further).prepend front)
    (run : BodyRun limit known levels further tail result after) :
    BodyRun limit known levels position text (result.prepend front) after := by
  cases run with
  | closed scanned => exact .closed (by rw [plain, scanned]; rfl)
  | unterminated fresh scanned reached =>
    refine .unterminated fresh (by rw [plain, scanned]; rfl) ?_
    intro later member
    obtain ⟨target, place, unending, onward⟩ := reached later member
    exact ⟨target, place, unending, walk.trans onward⟩
  | malformed target subset faulty onward first =>
    refine .malformed target subset faulty (walk.trans onward) ?_
    intro shallow
    obtain ⟨passed, rfl, -⟩ := walk.split
    rw [plain, first shallow.of_append]
    rfl

/-- If a `$` is taken for text that is known not to be terminated, a body that is closed after it would
    be closed plainly as well, so there is none. -/
theorem BodyRun.over_known {few : Nat} {rest : Text} {result : Scan} {after : List Nat}
    (member : position ∈ known) (le : few ≤ levels)
    (unterminated : Plain.attempt few position rest = .unterminated)
    (run : BodyRun limit known levels (position + 1) rest result after) :
    BodyRun limit known levels position (.char '$' :: rest) (result.prepend [.symbol (.char '$')]) after := by
  have step : Step limit known ⟨levels, position, .char '$' :: rest⟩ ⟨levels, position + 1, rest⟩ := .known member le unterminated
  have held := Plain.attempt_of_unterminated le unterminated
  cases run with
  | closed plain =>
    rcases held with ⟨-, unclosed⟩ | ⟨fault, -, malformed⟩
    · exact absurd (Scan.outline_eq_closed.2 ⟨rfl, _, plain⟩) (unclosed [] _)
    · rw [Plain.ending, Scan.outline_eq_malformed, plain] at malformed
      cases malformed
  | unterminated fresh plain reached =>
    rcases held with ⟨still, -⟩ | ⟨fault, -, malformed⟩
    · refine .unterminated fresh (Plain.scan_unterminated still) ?_
      intro later member
      obtain ⟨target, place, unending, walk⟩ := reached later member
      exact ⟨target, place, unending, .head step walk⟩
    · rw [Plain.ending, Scan.outline_eq_malformed, plain] at malformed
      cases malformed
  | malformed target subset faulty walk first =>
    refine .malformed target subset faulty (.head step walk) ?_
    intro shallow
    rcases held with ⟨still, -⟩ | ⟨fault, malformed, after⟩
    · have never := Plain.ending_after_unterminated shallow.tail still
      rw [Plain.ending, Scan.outline_eq_unterminated] at never
      have fault := first shallow.tail
      rw [never] at fault
      cases fault
    · rw [Plain.ending, Scan.outline_eq_malformed] at after
      have fault := first shallow.tail
      rw [after] at fault
      cases fault
      exact Plain.scan_malformed malformed

/-- What comes of a default that is not remembered, if its body comes to one of these ends. -/
theorem attempt_default {name body : Text} {trigger : Trigger} {trace : Trace} (inBody : Bool)
    (named : name.isName)
    (fresh : position ∉ trace.unterminated)
    (run : BodyRun limit trace.unterminated levels (position + 1 + (Opening.start name trigger).length) body
      (Template.scan (Template.attempt levels true) true [] 0 body (position + 1 + (Opening.start name trigger).length) trace).1
      (Template.scan (Template.attempt levels true) true [] 0 body (position + 1 + (Opening.start name trigger).length) trace).2.unterminated) :
    ∃ (inner : Scan) (trace' : Trace) (after : List Nat), trace'.unterminated = after ∧
      BodyRun limit trace.unterminated levels (position + 1 + (Opening.start name trigger).length) body inner after ∧
        Template.attempt (levels + 1) inBody position (Opening.start name trigger ++ body) trace =
          Template.afterBody inBody position name trigger (inner, trace') := by
  rw [Template.attempt_start inBody named fresh]
  by_cases open_ : .char '}' ∈ body
  · rw [if_pos open_]
    exact ⟨_, _, _, rfl, run, rfl⟩
  · rw [if_neg open_]
    exact ⟨.unterminated, trace, _, rfl, .unterminated [] (Plain.scan_of_open open_ _) (by simp), rfl⟩

/-- What comes of the attempt at a `$`, and what is remembered after it. An expression is found, or the `$` is text,
    as if nothing were remembered; the `$` is taken for text, as it is remembered; the expression never ends, and what
    is remembered was tried on the way; or a walk leads to a fault, which is the first one if there are more levels
    than the text can use up. -/
inductive AttemptRun (limit : Nat) (trace : Trace) (inBody : Bool) (levels position : Nat) (rest : Text) :
    Attempt × Trace → Prop
  | found {node : Node} {size : Nat} {starts : List Nat} {trace' : Trace}
      (same : trace'.unterminated = trace.unterminated)
      (plain : Plain.attempt levels position rest = .found node size starts) :
      AttemptRun limit trace inBody levels position rest (.found node size starts, trace')
  | kept {trace' : Trace} (same : trace'.unterminated = trace.unterminated)
      (plain : Plain.attempt levels position rest = .kept) :
      AttemptRun limit trace inBody levels position rest (.kept, trace')
  | known {few : Nat} (member : position ∈ trace.unterminated) (le : few ≤ levels)
      (unterminated : Plain.attempt few position rest = .unterminated) :
      AttemptRun limit trace inBody levels position rest (.kept, trace)
  | given_up {trace' : Trace} (fresh : List Nat) (same : trace'.unterminated = fresh ++ trace.unterminated)
      (plain : Plain.attempt levels position rest = .unterminated)
      (reached : ∀ later ∈ fresh, ∃ target : Spot,
        target.position = later ∧ target.Unending ∧ Walk limit trace.unterminated ⟨levels, position, .char '$' :: rest⟩ target) :
      AttemptRun limit trace inBody levels position rest (Template.giveUp inBody position trace')
  | malformed {fault : Fault} {trace' : Trace} (target : Spot)
      (subset : trace.unterminated ⊆ trace'.unterminated)
      (faulty : target.Faulty fault)
      (walk : Walk limit trace.unterminated ⟨levels, position, .char '$' :: rest⟩ target)
      (first : Plain.Shallow levels (.char '$' :: rest) → Plain.attempt levels position rest = .malformed fault) :
      AttemptRun limit trace inBody levels position rest (.malformed fault, trace')

/-- A `$` is tried as if nothing were remembered, as far as bodies are read so. -/
theorem attempt_run {rest : Text} {trace : Trace} (inBody : Bool)
    (bodies : ∀ {lower position text trace}, lower < levels → Recalls limit trace.unterminated ⟨lower, position, text⟩ →
      BodyRun limit trace.unterminated lower position text
        (Template.scan (Template.attempt lower true) true [] 0 text position trace).1
        (Template.scan (Template.attempt lower true) true [] 0 text position trace).2.unterminated)
    (recalls : Recalls limit trace.unterminated ⟨levels, position, .char '$' :: rest⟩) :
    AttemptRun limit trace inBody levels position rest (Template.attempt levels inBody position rest trace) := by
  by_cases member : position ∈ trace.unterminated
  · obtain ⟨few, le, unterminated⟩ := recalls.here member
    rw [Template.attempt_known member]
    exact .known member le unterminated
  · cases levels with
    | zero => exact .kept rfl rfl
    | succ levels =>
      have shape := Opening.read_shape rest
      cases opening : Opening.read rest with
      | absent =>
        obtain ⟨trace', same, kept⟩ := Template.attempt_absent (levels + 1) inBody position trace opening
        rw [kept]
        exact .kept same (Plain.attempt_absent opening)
      | unterminated =>
        rw [Template.attempt_cut_off member opening]
        exact .given_up [] rfl (Plain.attempt_cut_off opening) (by simp)
      | malformed defect size =>
        rw [Template.attempt_malformed member opening]
        exact .malformed ⟨levels + 1, position, .char '$' :: rest⟩ (fun _ old => old)
          ⟨rest, defect, size, rfl, Nat.succ_pos levels, opening, rfl⟩ .refl fun _ => Plain.attempt_malformed opening
      | complete name operator size =>
        rw [Template.attempt_complete member opening]
        exact .found rfl (Plain.attempt_complete opening)
      | default name trigger size =>
        rw [opening] at shape
        obtain ⟨named, rfl, body, rfl⟩ := shape
        have drop : (Opening.start name trigger ++ body).drop (Opening.start name trigger).length = body := List.drop_left
        have step : Step limit trace.unterminated ⟨levels + 1, position, .char '$' :: (Opening.start name trigger ++ body)⟩
            ⟨levels, position + 1 + (Opening.start name trigger).length, body⟩ := .default named
        obtain ⟨inner, trace', after, same, run, tried⟩ := attempt_default inBody named member
          (bodies (Nat.lt_succ_self levels) (recalls.enter named member))
        rw [tried]
        cases run with
        | closed plain => exact .found same (Plain.attempt_closed opening (by rwa [drop]))
        | unterminated fresh plain reached =>
          refine .given_up fresh same (Plain.attempt_unclosed opening (by rwa [drop])) ?_
          intro later new
          obtain ⟨target, place, unending, walk⟩ := reached later new
          exact ⟨target, place, unending, .head step walk⟩
        | malformed target subset faulty walk first =>
          refine .malformed target (same ▸ subset) faulty (.head step walk) ?_
          intro shallow
          exact Plain.attempt_faulty opening (by rw [drop]; exact first shallow.tail.body)

/-- A body is read as if nothing were remembered, as far as it is read. -/
theorem body_run (below : levels < limit) {text : Text} {trace : Trace}
    (recalls : Recalls limit trace.unterminated ⟨levels, position, text⟩) :
    BodyRun limit trace.unterminated levels position text
      (Template.scan (Template.attempt levels true) true [] 0 text position trace).1
      (Template.scan (Template.attempt levels true) true [] 0 text position trace).2.unterminated := by
  -- The levels go down with every body inside, the text goes on in this one.
  induction levels using Nat.strongRecOn generalizing text position trace with
  | _ levels ihLevels =>
    induction text using scanInduction true generalizing position trace with
    | ended => exact .unterminated [] rfl (by simp)
    | closing rest _ =>
      rw [Template.scan_closing]
      exact .closed (Plain.scan_closing rest)
    | escape rest ih =>
      rw [Template.scan_escape]
      exact .prepend passes_escape.1 (Plain.scan_escape rest) (ih (recalls.passes passes_escape))
    | dollar rest ih =>
      have run := attempt_run true (fun less => ihLevels _ less (Nat.lt_trans less below)) recalls
      generalize tried : Template.attempt levels true position rest trace = result at run
      cases run with
      | @found node size starts trace' same plain =>
        have passes : Passes limit trace.unterminated _ _ := passes_found (Nat.le_of_lt below) plain
        have further := @ih size _ trace' (by rw [same]; exact recalls.passes passes)
        have fits := Plain.attempt_fits levels plain
        rw [Template.scan_found tried fits]
        rw [same] at further
        exact .prepend passes.1 (Plain.scan_found plain fits) further
      | @kept trace' same plain =>
        have further := @ih 0 (position + 1) trace' (by rw [same]; exact recalls.passes (passes_kept plain))
        rw [Template.scan_kept tried]
        rw [same] at further
        exact .prepend (passes_kept plain).1 (Plain.scan_kept plain) further
      | known member le unterminated =>
        rw [Template.scan_kept tried]
        exact .over_known member le unterminated (ih 0 (recalls.text (incomplete_of_unterminated unterminated)))
      | given_up fresh same plain reached =>
        rw [Template.scan_unterminated tried]
        simp only [Trace.addUnterminated, same]
        refine .unterminated (position :: fresh) (Plain.scan_unterminated plain) ?_
        intro later member
        rcases List.mem_cons.1 member with rfl | before
        · exact ⟨_, rfl, ⟨_, rfl, plain⟩, .refl⟩
        · exact reached later before
      | malformed target subset faulty walk first =>
        rw [Template.scan_malformed tried]
        exact .malformed target subset faulty walk fun shallow => Plain.scan_malformed (first shallow)
    | symbol s rest open_ bare other ih =>
      have inside : s ≠ .char '}' := by
        rintro rfl
        cases open_ rfl
      have passes : Passes limit trace.unterminated ⟨levels, position, s :: rest⟩ ⟨levels, position + 1, rest⟩ :=
        passes_symbol inside bare other
      rw [Template.scan_symbol open_ bare other]
      exact .prepend passes.1 (Plain.scan_symbol open_ bare other) (ih (recalls.passes passes))

/-- What comes of the scan of a whole text from an offset, where `known` is remembered in the end: it is read as if
    nothing were remembered, or a walk leads to a fault, which is the first one if there are more levels than the text
    can use up. -/
inductive TextRun (limit : Nat) (known : List Nat) (position : Nat) (text : Text) : Scan → Prop
  | closed {pieces : List Piece} {stop : Nat}
      (plain : Plain.scan (Plain.attempt limit) false 0 text position = .closed pieces stop) :
      TextRun limit known position text (.closed pieces stop)
  | malformed {fault : Fault} (target : Spot) (faulty : target.Faulty fault)
      (walk : Walk limit known ⟨limit, position, text⟩ target)
      (first : Plain.Shallow limit text → Plain.scan (Plain.attempt limit) false 0 text position = .malformed fault) :
      TextRun limit known position text (.malformed fault)

theorem TextRun.prepend {front : List Piece} {text tail : Text} {further : Nat} {result : Scan}
    (walk : Walk limit known ⟨limit, position, text⟩ ⟨limit, further, tail⟩)
    (plain : Plain.scan (Plain.attempt limit) false 0 text position =
      (Plain.scan (Plain.attempt limit) false 0 tail further).prepend front)
    (run : TextRun limit known further tail result) :
    TextRun limit known position text (result.prepend front) := by
  cases run with
  | closed scanned => exact .closed (by rw [plain, scanned]; rfl)
  | malformed target faulty onward first =>
    refine .malformed target faulty (walk.trans onward) ?_
    intro shallow
    obtain ⟨passed, rfl, -⟩ := walk.split
    rw [plain, first shallow.of_append]
    rfl

/-- If a `$` that is given up is taken for text, a text that is read after it is read plainly as well. -/
theorem TextRun.over_known {few : Nat} {rest : Text} {result : Scan} (member : position ∈ known)
    (le : few ≤ limit)
    (unterminated : Plain.attempt few position rest = .unterminated)
    (run : TextRun limit known (position + 1) rest result) :
    TextRun limit known position (.char '$' :: rest) (result.prepend [.symbol (.char '$')]) := by
  cases run with
  | closed plain =>
    rcases Plain.attempt_of_unterminated le unterminated with ⟨still, -⟩ | ⟨fault, -, malformed⟩
    · exact .closed (by rw [Plain.scan_given_up still, plain]; rfl)
    · have outside := malformed_outside (Scan.outline_eq_malformed.1 malformed)
      rw [plain] at outside
      cases outside
  | malformed target faulty walk first =>
    refine .malformed target faulty (.head (.known member le unterminated) walk) ?_
    intro shallow
    have later := first shallow.tail
    rcases Plain.attempt_of_unterminated le unterminated with ⟨still, -⟩ | ⟨fault, malformed, after⟩
    · rw [Plain.scan_given_up still, later]
      rfl
    · rw [malformed_outside (Scan.outline_eq_malformed.1 after)] at later
      cases later
      exact Plain.scan_malformed malformed

/-- A whole text is read as if nothing were remembered, as far as it is read. -/
theorem text_run {text : Text} {trace : Trace}
    (recalls : Recalls limit trace.unterminated ⟨limit, position, text⟩) :
    trace.unterminated ⊆ (Template.scan (Template.attempt limit false) false [] 0 text position trace).2.unterminated ∧
      TextRun limit (Template.scan (Template.attempt limit false) false [] 0 text position trace).2.unterminated position text
        (Template.scan (Template.attempt limit false) false [] 0 text position trace).1 := by
  induction text using scanInduction false generalizing position trace with
  | ended => exact ⟨fun _ member => member, .closed rfl⟩
  | closing rest inside => cases inside
  | escape rest ih =>
    obtain ⟨subset, run⟩ := ih (recalls.passes passes_escape)
    rw [Template.scan_escape]
    exact ⟨subset, .prepend passes_escape.1 (Plain.scan_escape rest) run⟩
  | dollar rest ih =>
    have run := attempt_run false (fun less recalls => body_run less recalls) recalls
    generalize tried : Template.attempt limit false position rest trace = result at run
    cases run with
    | @found node size starts trace' same plain =>
      have passes : Passes limit trace.unterminated _ _ := passes_found (Nat.le_refl limit) plain
      obtain ⟨subset, run⟩ := @ih size _ trace' (by rw [same]; exact recalls.passes passes)
      have fits := Plain.attempt_fits limit plain
      rw [Template.scan_found tried fits]
      rw [same] at subset
      exact ⟨subset, .prepend (passes.1.mono subset) (Plain.scan_found plain fits) run⟩
    | @kept trace' same plain =>
      obtain ⟨subset, run⟩ := @ih 0 (position + 1) trace' (by rw [same]; exact recalls.passes (passes_kept plain))
      rw [Template.scan_kept tried]
      rw [same] at subset
      exact ⟨subset, .prepend (passes_kept plain).1 (Plain.scan_kept plain) run⟩
    | known member le unterminated =>
      obtain ⟨subset, run⟩ := ih 0 (recalls.text (incomplete_of_unterminated unterminated))
      rw [Template.scan_kept tried]
      exact ⟨subset, .over_known (subset member) le unterminated run⟩
    | @given_up trace' fresh same plain reached =>
      -- The text after the `$` is scanned again, and recalls what this attempt has tried in it.
      have further := recalls.give_up (incomplete_of_unterminated plain) reached
      obtain ⟨trace'', remembered, kept⟩ := Template.giveUp_outside position trace'
      rw [← same, ← remembered] at further
      obtain ⟨subset, run⟩ := ih 0 further
      rw [Template.scan_kept (tried.trans kept)]
      rw [remembered, same] at subset
      exact ⟨fun later old => subset (by simp [old]), .over_known (subset List.mem_cons_self) (Nat.le_refl _) plain run⟩
    | malformed target subset faulty walk first =>
      rw [Template.scan_malformed tried]
      exact ⟨subset, .malformed target faulty (walk.mono subset) fun shallow => Plain.scan_malformed (first shallow)⟩
  | symbol s rest open_ bare other ih =>
    have passes : Passes limit trace.unterminated ⟨limit, position, s :: rest⟩ ⟨limit, position + 1, rest⟩ := by
      by_cases brace : s = .char '}'
      · subst brace
        have up : Passes limit trace.unterminated ⟨limit, position, .char '}' :: rest⟩ _ := passes_closing
        rwa [Nat.min_eq_right (Nat.le_succ limit)] at up
      · exact passes_symbol brace bare other
    obtain ⟨subset, run⟩ := ih (recalls.passes passes)
    rw [Template.scan_symbol open_ bare other]
    exact ⟨subset, .prepend (passes.1.mono subset) (Plain.scan_symbol open_ bare other) run⟩

end

end ShellTemplate
