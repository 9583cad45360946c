import ShellTemplate.Proofs.Traces
import ShellTemplate.Template.Body

/-!
# Bodies at other depths

What comes of a body where it stands in fewer defaults, so that more may be nested in it (`bodyAt_of_shallower`). One level
more changes its end in one of the ways of `Shift`; that its first fault cannot come later is told by a walk to the fault that
was there with fewer levels.
-/

namespace ShellTemplate

namespace Scan

/-- Whether `more` may come of a body with more levels left where this comes of it: a body that never ends does not
    come to an end, one that is closed is not closed earlier, and a fault does not come later. -/
def Allows : Scan → Scan → Prop
  | .unterminated, more => more = .unterminated ∨ ∃ fault, more = .malformed fault
  | .closed _ stop, more =>
    (∃ pieces later, more = .closed pieces later ∧ stop ≤ later) ∨ more = .unterminated ∨ ∃ fault, more = .malformed fault
  | .malformed fault, more => ∃ first, more = .malformed first ∧ first.position ≤ fault.position

theorem Allows.refl (scan : Scan) : scan.Allows scan := by
  cases scan with
  | closed pieces stop => exact .inl ⟨pieces, stop, rfl, Nat.le_refl stop⟩
  | unterminated => exact .inl rfl
  | malformed fault => exact ⟨fault, rfl, Nat.le_refl _⟩

theorem Allows.trans {first second third : Scan} (here : first.Allows second) (there : second.Allows third) :
    first.Allows third := by
  cases first with
  | closed pieces stop =>
    rcases here with ⟨pieces', stop', rfl, le⟩ | rfl | ⟨fault, rfl⟩
    · rcases there with ⟨pieces'', stop'', rfl, le'⟩ | unended
      · exact .inl ⟨pieces'', stop'', rfl, Nat.le_trans le le'⟩
      · exact .inr unended
    · exact .inr there
    · obtain ⟨fault', rfl, -⟩ := there
      exact .inr (.inr ⟨fault', rfl⟩)
  | unterminated =>
    rcases here with rfl | ⟨fault, rfl⟩
    · exact there
    · obtain ⟨fault', rfl, -⟩ := there
      exact .inr ⟨fault', rfl⟩
  | malformed fault =>
    obtain ⟨fault', rfl, le⟩ := here
    obtain ⟨fault'', rfl, le'⟩ := there
    exact ⟨fault'', rfl, Nat.le_trans le' le⟩

theorem allows_outline {here there : Scan} : here.outline.Allows there.outline ↔ here.Allows there := by
  cases here <;> cases there <;> simp [outline, Allows, and_assoc]

end Scan

namespace Plain

section
variable {levels position : Nat} {text : Text} {fault : Fault}

/-- A walk leads to the fault of a body. -/
theorem exists_walk_of_malformed (malformed : scan (attempt levels) true 0 text position = .malformed fault) :
    ∃ target : Spot, target.Faulty fault ∧ Walk (levels + 1) [] ⟨levels, position, text⟩ target := by
  have recalls : Recalls (levels + 1) Trace.empty.unterminated ⟨levels, position, text⟩ := fun _ member => by cases member
  have run := body_run (Nat.lt_succ_self levels) recalls
  obtain ⟨trace', plain, -⟩ := Template.body_of_fresh levels text position .empty rfl
  rw [plain, malformed] at run
  cases run with
  | malformed target subset faulty walk first => exact ⟨target, faulty, walk⟩

/-- With one more level the fault of a body does not come later. -/
theorem exists_fault_of_succ (malformed : ending levels text position = .malformed fault) :
    ∃ first, ending (levels + 1) text position = .malformed first ∧ first.position ≤ fault.position := by
  have another : ∃ first, ending (levels + 1) text position = .malformed first := by
    cases shift_total levels text position with
    | steady same => exact ⟨fault, (same _ (Nat.le_succ _)).trans malformed⟩
    | faulty first always => exact ⟨first, always _ (Nat.lt_succ_self _)⟩
    | resumed inner rest split closed next =>
      rw [malformed] at closed
      cases closed
    | stuck unclosed same => exact ⟨fault, same.trans malformed⟩
  obtain ⟨first, again⟩ := another
  obtain ⟨target, faulty, walk⟩ := exists_walk_of_malformed (Scan.outline_eq_malformed.1 malformed)
  have le := fault_position_le (Nat.le_refl _) faulty (Scan.outline_eq_malformed.1 again) ⟨levels, Nat.le_succ _, walk⟩
  obtain ⟨after, defect, size, -, -, -, rfl⟩ := faulty
  exact ⟨first, again, le⟩

/-- What one more level makes of the end of a body. -/
theorem allows_ending_succ (levels : Nat) (text : Text) (position : Nat) :
    (ending levels text position).Allows (ending (levels + 1) text position) := by
  cases ended : ending levels text position with
  | malformed fault => exact exists_fault_of_succ ended
  | unterminated =>
    rcases ending_of_unterminated (Nat.le_succ levels) ended with still | ⟨fault, always⟩
    · exact .inl still
    · exact .inr ⟨fault, always _ (Nat.le_refl _)⟩
  | closed pieces stop =>
    cases shift_total levels text position with
    | steady same =>
      rw [same _ (Nat.le_succ _), ended]
      exact .refl _
    | faulty fault always => exact .inr (.inr ⟨fault, always _ (Nat.lt_succ_self _)⟩)
    | resumed inner rest split closed next =>
      -- The body goes on behind the brace that closed it.
      rw [ended] at closed
      cases closed
      rw [next]
      rcases ending_closed_or (levels + 1) rest (position + inner.length + 1) with ⟨inner', back, -, later⟩ | unclosed
      · exact .inl ⟨[], _, later, by omega⟩
      · cases further : ending (levels + 1) rest (position + inner.length + 1) with
        | closed pieces' stop' =>
          obtain ⟨rfl, -⟩ := Scan.outline_eq_closed.1 further
          exact absurd further (unclosed stop')
        | unterminated => exact .inr (.inl rfl)
        | malformed fault => exact .inr (.inr ⟨fault, rfl⟩)
    | stuck unclosed same =>
      obtain ⟨rfl, -⟩ := Scan.outline_eq_closed.1 ended
      exact absurd ended (unclosed stop)

end

/-- What more levels make of a body. -/
theorem allows_scan {few many : Nat} (more : few ≤ many) (text : Text) (position : Nat) :
    (scan (attempt few) true 0 text position).Allows (scan (attempt many) true 0 text position) := by
  rw [← Scan.allows_outline]
  induction more with
  | refl => exact .refl _
  | @step middle more ih => exact ih.trans (allows_ending_succ middle text position)

end Plain

namespace Template

/-- An attempt at a default comes to what its body comes to. -/
theorem attempt_start_scanBody {levels position : Nat} {name body : Text} {trigger : Trigger} {trace : Trace} (inBody : Bool)
    (named : name.isName) (fresh : position ∉ trace.unterminated) :
    attempt (levels + 1) inBody position (Opening.start name trigger ++ body) trace =
      afterBody inBody position name trigger
        (scanBody levels body (position + 1 + (Opening.start name trigger).length) trace) := by
  rw [attempt_start inBody named fresh, scanBody]
  simp only [List.contains_iff_mem]
  split <;> rfl

/-- A body of which nothing is known is read plainly. -/
theorem bodyAt_eq (text : Text) (depth position : Nat) :
    bodyAt text depth position = Plain.scan (Plain.attempt (maxNesting - depth)) true 0 (text.drop position) position := by
  rw [bodyAt, scanBody]
  split
  · obtain ⟨trace', plain, -⟩ := body_of_fresh (maxNesting - depth) (text.drop position) position .empty rfl
    rw [plain]
  · rename_i unclosed
    rw [List.contains_iff_mem] at unclosed
    exact (Plain.scan_of_open unclosed position).symm

/-- At a smaller depth a body that never ends does not come to an end either, a body that is closed is not closed earlier, and
    the fault of a body does not come later. -/
theorem bodyAt_of_shallower {shallow deep : Nat} (less : shallow ≤ deep) (text : Text) (position : Nat) :
    (bodyAt text deep position = .unterminated →
      bodyAt text shallow position = .unterminated ∨ ∃ fault, bodyAt text shallow position = .malformed fault) ∧
    (∀ pieces stop, bodyAt text deep position = .closed pieces stop →
      (∃ pieces' later, bodyAt text shallow position = .closed pieces' later ∧ stop ≤ later) ∨
        bodyAt text shallow position = .unterminated ∨ ∃ fault, bodyAt text shallow position = .malformed fault) ∧
    ∀ fault, bodyAt text deep position = .malformed fault →
      ∃ first, bodyAt text shallow position = .malformed first ∧ first.position ≤ fault.position := by
  have levels : maxNesting - deep ≤ maxNesting - shallow := Nat.sub_le_sub_left less maxNesting
  have allows : (bodyAt text deep position).Allows (bodyAt text shallow position) := by
    rw [bodyAt_eq, bodyAt_eq]
    exact Plain.allows_scan levels _ _
  refine ⟨?_, ?_, ?_⟩
  · intro unterminated
    rwa [unterminated] at allows
  · intro pieces stop closed
    rwa [closed] at allows
  · intro fault malformed
    rwa [malformed] at allows

/-- One level above the limit a body goes on past the brace that closes it at the limit, and there a fault shows behind which the
    body would never end, or which comes before the fault that it would have. -/
theorem bodyAt_of_shallower_at_limit :
    let nested := Text.ofString "$\x7bx=\x7da\x7d"
    let hidden := Text.ofString "$\x7bw=$\x7bx:bad\x7d"
    let faulty := hidden ++ Text.ofString "$\x7by:bad\x7d"
    (31 ≤ maxNesting ∧ (∃ pieces, bodyAt nested maxNesting 0 = .closed pieces 4) ∧
      ((∃ pieces later, bodyAt nested 31 0 = .closed pieces later ∧ 4 ≤ later) ∨
        bodyAt nested 31 0 = .unterminated ∨ ∃ fault, bodyAt nested 31 0 = .malformed fault)) ∧
    (30 ≤ 31 ∧ bodyAt hidden 31 0 = .unterminated ∧
      (bodyAt hidden 30 0 = .unterminated ∨ ∃ fault, bodyAt hidden 30 0 = .malformed fault)) ∧
    ∃ fault, bodyAt faulty 31 0 = .malformed fault ∧
      ∃ first, bodyAt faulty 30 0 = .malformed first ∧ first.position ≤ fault.position := by
  intro nested hidden faulty
  have closed : bodyAt nested maxNesting 0 = .closed _ 4 := rfl
  have unterminated : bodyAt hidden 31 0 = .unterminated := rfl
  have malformed : bodyAt faulty 31 0 = .malformed _ := rfl
  refine ⟨⟨by decide, ⟨_, closed⟩, ?_⟩, ⟨by decide, unterminated, ?_⟩, _, malformed, ?_⟩
  · exact (bodyAt_of_shallower (by decide) nested 0).2.1 _ _ closed
  · exact (bodyAt_of_shallower (by decide) hidden 0).1 unterminated
  · exact (bodyAt_of_shallower (by decide) faulty 0).2.2 _ malformed

end Template

end ShellTemplate
