import ShellTemplate.Proofs.Remembering
import ShellTemplate.Template.Plain
import ShellTemplate.Template.Printer

/-!
# Reading and plain reading

A text is read to a template if and only if it is plainly read to it. Where there is no template, both
readings find a fault, but what is remembered can lead reading past the first one: a `$` that never
ends, as it was found before, is taken for text even inside a body that then cannot end either.
-/

namespace ShellTemplate

theorem Walk.faultAt {limit levels position : Nat} {known : List Nat} {text : Text} {target : Spot}
    {fault : Fault}
    (walk : Walk limit known ⟨levels, position, text⟩ target) (faulty : target.Faulty fault) :
    FaultAt text position fault := by
  obtain ⟨front, split, place⟩ := walk.split
  obtain ⟨after, defect, size, here, -, opening, rfl⟩ := faulty
  exact ⟨front, after, size, by rw [← here]; exact split, place, opening, rfl⟩

namespace Template

/-- What reading a whole text comes to, by what plain reading comes to. -/
theorem scanAll_run (levels : Nat) (text : Text) :
    TextRun levels (scanAll levels text).2.unterminated 0 text (scanAll levels text).1 :=
  (@text_run levels 0 text .empty fun _ member => by cases member).2

theorem plain_of_closed {levels : Nat} {text : Text} {pieces : List Piece} {stop : Nat}
    (closed : (scanAll levels text).1 = .closed pieces stop) :
    Plain.scanAll levels text = .closed pieces stop := by
  have run := scanAll_run levels text
  rw [closed] at run
  cases run with
  | closed plain => exact plain

theorem plain_of_malformed {levels : Nat} {text : Text} {fault : Fault}
    (malformed : (scanAll levels text).1 = .malformed fault) :
    FaultAt text 0 fault ∧ (Plain.Shallow levels text → Plain.scanAll levels text = .malformed fault) ∧
      ∃ first, Plain.scanAll levels text = .malformed first ∧ first.position ≤ fault.position := by
  have run := scanAll_run levels text
  rw [malformed] at run
  cases run with
  | malformed target faulty walk same =>
    refine ⟨walk.faultAt faulty, same, ?_⟩
    obtain ⟨first, plain, le⟩ := exists_fault_le faulty (.of_walk walk)
    obtain ⟨after, defect, size, text, live, opening, rfl⟩ := faulty
    exact ⟨first, plain, le⟩

/-- A template that is read comes of the pieces that a plain scan closes. -/
theorem parse_eq_ok_iff {text : Text} {template : Template} :
    parse text = .ok template ↔
      ∃ pieces stop, Plain.scanAll maxNesting text = .closed pieces stop ∧ template = ofPieces pieces := by
  simp only [parse, read, Reading.template, Reading.ofText]
  cases scanned : (scanAll maxNesting text).1 with
  | closed pieces stop =>
    simp [plain_of_closed scanned, Except.map, eq_comm]
  | unterminated => exact absurd scanned (scanAll_ne_unterminated maxNesting text)
  | malformed fault =>
    obtain ⟨-, -, first, plain, -⟩ := plain_of_malformed scanned
    simp [plain, Except.map]

theorem parse_eq_error_iff {text : Text} {fault : Fault} :
    parse text = .error fault ↔ (scanAll maxNesting text).1 = .malformed fault := by
  simp only [parse, read, Reading.template, Reading.ofText]
  cases (scanAll maxNesting text).1 <;> simp [Except.map]

end Template

namespace Plain

theorem parse_eq_ok_iff {text : Text} {template : Template} :
    parse text = .ok template ↔
      ∃ pieces stop, scanAll Template.maxNesting text = .closed pieces stop ∧ template = Template.ofPieces pieces := by
  unfold parse
  cases scanned : (Template.scanAll Template.maxNesting text).1 with
  | closed pieces stop => simp [Template.plain_of_closed scanned, eq_comm]
  | unterminated => exact absurd scanned (Template.scanAll_ne_unterminated _ text)
  | malformed fault =>
    obtain ⟨-, -, first, plain, -⟩ := Template.plain_of_malformed scanned
    simp [plain]

theorem parse_eq_error_iff {text : Text} {fault : Fault} :
    parse text = .error fault ↔ scanAll Template.maxNesting text = .malformed fault := by
  unfold parse
  cases scanAll Template.maxNesting text <;> simp

end Plain

namespace Template

/-- Reading and plain reading give the same templates. Where one finds a fault the other does, and the
    fault of plain reading is not the later one: the two readings agree if and only if it is not the
    earlier one either. They do in every text with fewer `=` than defaults may be nested. -/
theorem parse_eq_plain_parse_iff (text : Text) :
    (∀ template, parse text = .ok template ↔ Plain.parse text = .ok template) ∧
      (∀ fault, parse text = .error fault → ∃ first, Plain.parse text = .error first ∧ first.position ≤ fault.position) ∧
        (parse text = Plain.parse text ↔
          ∀ fault first, parse text = .error fault → Plain.parse text = .error first → fault.position ≤ first.position) ∧
          (text.count (.char '=') < maxNesting → parse text = Plain.parse text) := by
  have templates : ∀ template, parse text = .ok template ↔ Plain.parse text = .ok template := fun template => by
    rw [parse_eq_ok_iff, Plain.parse_eq_ok_iff]
  have faults : ∀ fault, parse text = .error fault → FaultAt text 0 fault ∧
      (Plain.Shallow maxNesting text → Plain.parse text = .error fault) ∧
        ∃ first, Plain.parse text = .error first ∧ first.position ≤ fault.position := by
    intro fault read
    obtain ⟨here, same, first, plain, le⟩ := plain_of_malformed (parse_eq_error_iff.1 read)
    exact ⟨here, fun shallow => Plain.parse_eq_error_iff.2 (same shallow), first, Plain.parse_eq_error_iff.2 plain, le⟩
  refine ⟨templates, fun fault read => (faults fault read).2.2, ⟨?_, ?_⟩, ?_⟩
  · intro same fault first read plain
    rw [same, plain] at read
    cases read
    exact Nat.le_refl _
  · intro close
    cases read : parse text with
    | ok template => exact ((templates template).1 read).symm
    | error fault =>
      obtain ⟨here, -, first, plain, le⟩ := faults fault read
      have there : FaultAt text 0 first :=
        Plain.faultAt_of_malformed (Plain.attempt_fits _) (Plain.attempt_blames _) (Plain.parse_eq_error_iff.1 plain)
      rw [plain, here.eq there (Nat.le_antisymm (close fault first read plain) le)]
  · intro shallow
    cases read : parse text with
    | ok template => exact ((templates template).1 read).symm
    | error fault => exact ((faults fault read).2.1 shallow).symm

/-- A text in which reading goes past the first fault. Defaults are opened down to the last level, where
    the fault at `y` is text, and all of them but one are closed before `p` is opened, which never ends.
    In the next try the `$` of `p` is text, so that there is a level left for the fault at `x`. -/
def lateFault : Text :=
  let opened (name : Char) : Text := .char '$' :: Opening.start [.char name] .unset
  let faulty (name : Char) : Text := Text.braced (.char name :: Text.ofString ":bad")
  let many (part : Text) : Text := (List.replicate (maxNesting - 2) part).flatten
  opened 'q' ++ opened 'z' ++ many (opened 'a') ++ opened 'w' ++ faulty 'y' ++ many [.char '}'] ++
    opened 'p' ++ many (opened 'b') ++ faulty 'x'

theorem parse_ne_plain_parse : parse lateFault ≠ Plain.parse lateFault := by
  have places : (match parse lateFault with | .error fault => fault.position | .ok _ => 0) = 294 ∧
      (match Plain.parse lateFault with | .error fault => fault.position | .ok _ => 0) = 132 := by decide +kernel
  intro same
  rw [same] at places
  omega

end Template

end ShellTemplate
