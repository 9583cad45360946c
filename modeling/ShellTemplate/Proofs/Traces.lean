import ShellTemplate.Proofs.Locality
import ShellTemplate.Proofs.PlainReading

/-!
# What a trace does to a scan

A scan makes remarks but never looks at them, and what it remembers counts only at the offsets it comes
to: where nothing is remembered, reading is plain until it gives up (`body_of_fresh`), and a text that
stands further on is read alike if what is remembered stands further on with it (`scan_relocated`).
-/

namespace ShellTemplate

namespace Template

/-! ### Remarks are only added -/

theorem remarks_giveUp (inBody : Bool) (position : Nat) (trace : Trace) :
    trace.remarks <:+ (giveUp inBody position trace).2.remarks := by
  cases inBody with
  | true => exact List.suffix_refl _
  | false => exact List.suffix_cons _ _

theorem remarks_scan {attempt : Nat → Text → Trace → Attempt × Trace}
    (grows : ∀ position after trace, trace.remarks <:+ (attempt position after trace).2.remarks) (inBody : Bool)
    (done : List Piece) (skip : Nat) (text : Text) (position : Nat) (trace : Trace) :
    trace.remarks <:+ (scan attempt inBody done skip text position trace).2.remarks := by
  induction text generalizing done skip position trace with
  | nil => exact List.suffix_refl _
  | cons s rest ih =>
    cases skip with
    | succ skip => exact ih _ _ _ _
    | zero =>
      rw [scan]
      split
      · exact List.suffix_refl _
      · split
        · exact ih _ _ _ _
        · split
          · have own := grows position rest trace
            split <;> rename_i tried <;> rw [tried] at own
            · exact own.trans (ih _ _ _ _)
            · exact own.trans (ih _ _ _ _)
            · exact own
            · exact own
          · exact ih _ _ _ _

theorem remarks_attempt (levels : Nat) (inBody : Bool) (position : Nat) (after : Text) (trace : Trace) :
    trace.remarks <:+ (attempt levels inBody position after trace).2.remarks := by
  induction levels generalizing inBody position after trace with
  | zero => exact List.suffix_refl _
  | succ levels ih =>
    rw [attempt]
    split
    · exact List.suffix_refl _
    · split
      · exact List.suffix_cons _ _
      · exact remarks_giveUp _ _ _
      · exact List.suffix_refl _
      · exact List.suffix_refl _
      · rename_i name trigger size _
        have inner := remarks_scan (ih true) true [] 0 (after.drop size) (position + 1 + size) trace
        split
        · split <;> rename_i scanned <;> rw [scanned] at inner
          · exact inner
          · exact inner.trans (remarks_giveUp _ _ _)
          · exact inner
        · exact remarks_giveUp _ _ _

/-! ### Where nothing is remembered -/

section
variable {levels position : Nat} {trace : Trace}

/-- Where nothing is remembered, a body is read plainly, and nothing is remembered after it if it ends. -/
def ReadsPlainly (levels : Nat) : Prop :=
  ∀ text position trace, trace.unterminated = [] → ∃ trace',
    scan (attempt levels true) true [] 0 text position trace =
      (Plain.scan (Plain.attempt levels) true 0 text position, trace') ∧
      (Plain.scan (Plain.attempt levels) true 0 text position ≠ .unterminated → trace'.unterminated = [])

/-- What comes of a plain attempt, where an unterminated expression is given up. -/
def orGiveUp (inBody : Bool) (position : Nat) (trace : Trace) : Attempt → Attempt × Trace
  | .unterminated => giveUp inBody position trace
  | result => (result, trace)

theorem attempt_of_fresh (bodies : ∀ lower < levels, ReadsPlainly lower) (inBody : Bool)
    (fresh : trace.unterminated = []) (after : Text) :
    ∃ trace', attempt levels inBody position after trace = orGiveUp inBody position trace' (Plain.attempt levels position after) ∧
      (Plain.attempt levels position after ≠ .unterminated → trace'.unterminated = []) := by
  have new : position ∉ trace.unterminated := by simp [fresh]
  cases levels with
  | zero => exact ⟨trace, rfl, fun _ => fresh⟩
  | succ levels =>
    have tried := Plain.attempt_tried levels position after
    generalize Plain.attempt (levels + 1) position after = result at tried ⊢
    cases tried with
    | absent opening =>
      obtain ⟨trace', same, kept⟩ := attempt_absent (levels + 1) inBody position trace opening
      exact ⟨trace', kept, fun _ => same.trans fresh⟩
    | cut_off opening => exact ⟨trace, attempt_cut_off new opening, fun _ => fresh⟩
    | malformed opening => exact ⟨trace, attempt_malformed new opening, fun _ => fresh⟩
    | complete opening => exact ⟨trace, attempt_complete new opening, fun _ => fresh⟩
    | @closed name body trigger pieces stop named scanned =>
      obtain ⟨trace', plain, remembered⟩ :=
        bodies levels (Nat.lt_succ_self levels) body (position + 1 + (Opening.start name trigger).length) trace fresh
      have ended : Plain.scan (Plain.attempt levels) true 0 body (position + 1 + (Opening.start name trigger).length) ≠ .unterminated := by
        simp [scanned]
      refine ⟨trace', ?_, fun _ => remembered ended⟩
      rw [attempt_start inBody named new, if_pos (Plain.brace_mem_of_ended ended), plain, scanned]
      rfl
    | @unclosed name body trigger named scanned =>
      obtain ⟨trace', plain, -⟩ := bodies levels (Nat.lt_succ_self levels) body (position + 1 + (Opening.start name trigger).length) trace fresh
      by_cases open_ : .char '}' ∈ body
      · refine ⟨trace', ?_, fun other => absurd rfl other⟩
        rw [attempt_start inBody named new, if_pos open_, plain, scanned]
        rfl
      · refine ⟨trace, ?_, fun other => absurd rfl other⟩
        rw [attempt_start inBody named new, if_neg open_]
        rfl
    | @faulty name body trigger fault named scanned =>
      obtain ⟨trace', plain, remembered⟩ :=
        bodies levels (Nat.lt_succ_self levels) body (position + 1 + (Opening.start name trigger).length) trace fresh
      have ended : Plain.scan (Plain.attempt levels) true 0 body (position + 1 + (Opening.start name trigger).length) ≠ .unterminated := by
        simp [scanned]
      refine ⟨trace', ?_, fun _ => remembered ended⟩
      rw [attempt_start inBody named new, if_pos (Plain.brace_mem_of_ended ended), plain, scanned]
      rfl

/-- Where nothing is remembered, bodies are read plainly. -/
theorem body_of_fresh (levels : Nat) : ReadsPlainly levels := by
  induction levels using Nat.strongRecOn with
  | _ levels ihLevels =>
    intro text
    induction text using scanInduction true with
    | ended =>
      intro position trace fresh
      exact ⟨trace, rfl, fun other => absurd rfl other⟩
    | closing rest _ =>
      intro position trace fresh
      exact ⟨trace, by rw [scan_closing, Plain.scan_closing], fun _ => fresh⟩
    | escape rest ih =>
      intro position trace fresh
      obtain ⟨trace', plain, remembered⟩ := ih (position + 2) trace fresh
      exact ⟨trace', by rw [scan_escape, plain, Plain.scan_escape]; rfl, fun other => remembered (by simpa using other)⟩
    | dollar rest ih =>
      intro position trace fresh
      obtain ⟨after, tried, remembered⟩ := attempt_of_fresh ihLevels true fresh rest
      rcases Plain.scan_dollar (Plain.attempt_fits levels) true position rest with
        ⟨node, size, starts, plain, fits, scanned⟩ | ⟨plain | ⟨-, outside⟩, scanned⟩ | ⟨plain, -, scanned⟩ | ⟨fault, plain, scanned⟩
      · rw [plain] at tried remembered
        obtain ⟨trace', further, later⟩ := ih size (position + 1 + size) after (remembered (by simp))
        refine ⟨trace', ?_, fun other => later (by simpa [scanned] using other)⟩
        rw [scan_found tried fits, further, scanned]
        rfl
      · rw [plain] at tried remembered
        obtain ⟨trace', further, later⟩ := ih 0 (position + 1) after (remembered (by simp))
        refine ⟨trace', ?_, fun other => later (by simpa [scanned] using other)⟩
        rw [List.drop_zero] at further
        rw [scan_kept tried, further, scanned]
        rfl
      · cases outside
      · rw [plain] at tried
        exact ⟨_, by rw [scan_unterminated tried, scanned], fun other => absurd scanned other⟩
      · rw [plain] at tried remembered
        exact ⟨after, by rw [scan_malformed tried, scanned], fun _ => remembered (by simp)⟩
    | symbol s rest open_ bare other ih =>
      intro position trace fresh
      obtain ⟨trace', plain, remembered⟩ := ih (position + 1) trace fresh
      exact ⟨trace', by rw [scan_symbol open_ bare other, plain, Plain.scan_symbol open_ bare other]; rfl,
        fun ended => remembered (by simpa [Plain.scan_symbol open_ bare other] using ended)⟩

/-- Where nothing is remembered, a `$` is tried plainly, and nothing is remembered after it if it is not
    given up. -/
theorem attempt_plain (levels : Nat) (inBody : Bool) (position : Nat) (fresh : trace.unterminated = []) (after : Text) :
    ∃ trace', attempt levels inBody position after trace = orGiveUp inBody position trace' (Plain.attempt levels position after) ∧
      (Plain.attempt levels position after ≠ .unterminated → trace'.unterminated = []) :=
  attempt_of_fresh (fun lower _ => body_of_fresh lower) inBody fresh after

end

/-! ### Where a text stands further on -/

/-- Whether what comes of the same text further on is the same there, and what is remembered after it stands
    further on as well. -/
structure Relocated {α : Type} (shift : Nat → α → α) (distance : Nat) (here there : α × Trace) : Prop where
  result : there.1 = shift distance here.1
  remembered : there.2.unterminated = here.2.unterminated.map (· + distance)

/-- Whether every `$` comes to the same further on, whatever is remembered. -/
def Relocates (distance : Nat) (attempt : Nat → Text → Trace → Attempt × Trace) : Prop :=
  ∀ position after trace further, further.unterminated = trace.unterminated.map (· + distance) →
    Relocated Attempt.shift distance (attempt position after trace) (attempt (position + distance) after further)

section
variable {distance : Nat} {trace further : Trace}

theorem scan_relocated {attempt : Nat → Text → Trace → Attempt × Trace} (attempts : Relocates distance attempt) (inBody : Bool)
    (done : List Piece) (skip : Nat) (text : Text) (position : Nat)
    (same : further.unterminated = trace.unterminated.map (· + distance)) :
    Relocated Scan.shift distance (scan attempt inBody done skip text position trace)
      (scan attempt inBody (done.map (Piece.shift distance)) skip text (position + distance) further) := by
  induction text generalizing done skip position trace further with
  | nil =>
    refine ⟨?_, same⟩
    cases inBody with
    | false => simp [scan, Scan.shift]
    | true => rfl
  | cons s rest ih =>
    have next : position + distance + 1 = position + 1 + distance := Nat.add_right_comm _ _ _
    cases skip with
    | succ skip =>
      rw [scan, scan, next]
      exact ih _ _ _ same
    | zero =>
      rw [scan, scan, next]
      split
      · exact ⟨by simp [Scan.shift], same⟩
      · split
        · exact ih (.escapedDollar :: done) _ _ same
        · split
          · have own := attempts position rest trace further same
            generalize attempt position rest trace = here at own ⊢
            generalize attempt (position + distance) rest further = there at own ⊢
            obtain ⟨result, trace'⟩ := here
            obtain ⟨_, further'⟩ := there
            obtain ⟨rfl, same'⟩ := own
            cases result with
            | found node size starts => exact ih (.expression node (size + 1) starts :: done) _ _ same'
            | kept => exact ih (.symbol s :: done) _ _ same'
            | unterminated => exact ⟨rfl, same'⟩
            | malformed fault => exact ⟨rfl, same'⟩
          · exact ih (.symbol s :: done) _ _ same

theorem giveUp_relocated (inBody : Bool) (position : Nat) (same : further.unterminated = trace.unterminated.map (· + distance)) :
    Relocated Attempt.shift distance (giveUp inBody position trace) (giveUp inBody (position + distance) further) := by
  have remembered : (further.addUnterminated (position + distance)).unterminated =
      (trace.addUnterminated position).unterminated.map (· + distance) := by
    simp [Trace.addUnterminated, same]
  cases inBody with
  | true => exact ⟨rfl, remembered⟩
  | false => exact ⟨rfl, remembered⟩

theorem afterBody_relocated (inBody : Bool) (position : Nat) (name : Text) (trigger : Trigger) {here there : Scan × Trace}
    (body : Relocated Scan.shift distance here there) :
    Relocated Attempt.shift distance (afterBody inBody position name trigger here)
      (afterBody inBody (position + distance) name trigger there) := by
  obtain ⟨result, trace'⟩ := here
  obtain ⟨_, further'⟩ := there
  obtain ⟨rfl, same⟩ := body
  cases result with
  | closed pieces stop =>
    refine ⟨?_, same⟩
    simp [afterBody, Scan.shift, Attempt.shift, ofPieces_shift, Piece.starts_shift, Nat.add_sub_add_right]
  | unterminated => exact giveUp_relocated inBody position same
  | malformed fault => exact ⟨rfl, same⟩

theorem attempt_relocated (distance levels : Nat) (inBody : Bool) : Relocates distance (attempt levels inBody) := by
  induction levels generalizing inBody with
  | zero => exact fun position after trace further same => ⟨rfl, same⟩
  | succ levels ih =>
    intro position after trace further same
    have known : position + distance ∈ further.unterminated ↔ position ∈ trace.unterminated := by simp [same]
    by_cases member : position ∈ trace.unterminated
    · rw [attempt_known member, attempt_known (known.2 member)]
      exact ⟨rfl, same⟩
    · have member' := mt known.1 member
      have shape := Opening.read_shape after
      cases opening : Opening.read after with
      | absent =>
        obtain ⟨trace', remembered, kept⟩ := attempt_absent (levels + 1) inBody position trace opening
        obtain ⟨further', remembered', kept'⟩ := attempt_absent (levels + 1) inBody (position + distance) further opening
        rw [kept, kept']
        exact ⟨rfl, by rw [remembered, remembered', same]⟩
      | unterminated =>
        rw [attempt_cut_off member opening, attempt_cut_off member' opening]
        exact giveUp_relocated inBody position same
      | malformed defect size =>
        rw [attempt_malformed member opening, attempt_malformed member' opening]
        exact ⟨rfl, same⟩
      | complete name operator size =>
        rw [attempt_complete member opening, attempt_complete member' opening]
        exact ⟨rfl, same⟩
      | default name trigger size =>
        rw [opening] at shape
        obtain ⟨named, rfl, body, rfl⟩ := shape
        have place : position + distance + 1 + (Opening.start name trigger).length =
            position + 1 + (Opening.start name trigger).length + distance := by omega
        rw [attempt_start inBody named member, attempt_start inBody named member', place]
        split
        · exact afterBody_relocated inBody position name trigger (scan_relocated (ih true) true [] 0 body _ same)
        · exact giveUp_relocated inBody position same

end

end Template

end ShellTemplate
