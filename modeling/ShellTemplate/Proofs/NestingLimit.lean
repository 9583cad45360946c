import ShellTemplate.Proofs.Remembering

/-!
# The nesting limit

Every default that a `$` is nested in has a `$` of its own further in front. A text with no more dollar signs than
defaults may be nested is therefore read without ever coming to the limit: neither what becomes of a `$` past it nor a
higher limit makes a difference (`ofText_eq_read`).
-/

namespace ShellTemplate

namespace Template

/-- Tries the expression at the `$` of an offset, where `limited` says what becomes of a `$` nested too deep. -/
def attemptWithin (limited : Bool → Nat → Text → Trace → Attempt × Trace) :
    (levels : Nat) → (inBody : Bool) → (position : Nat) → (after : Text) → Trace → Attempt × Trace
  | 0, inBody, position, after, trace => limited inBody position after trace
  | levels + 1, inBody, position, after, trace =>
    if position ∈ trace.unterminated then (.kept, trace)
    else
      match Opening.read after with
      | .default name trigger size =>
        if .char '}' ∈ after.drop size then
          afterBody inBody position name trigger
            (scan (attemptWithin limited levels true) true [] 0 (after.drop size) (position + 1 + size) trace)
        else giveUp inBody position trace
      | _ => attempt 1 inBody position after trace

section
variable {limited other : Bool → Nat → Text → Trace → Attempt × Trace}

/-- A higher limit says what becomes of a `$` past the lower one. -/
theorem attempt_add (levels more : Nat) : attempt (levels + more) = attemptWithin (attempt more) levels := by
  induction levels with
  | zero => rw [Nat.zero_add]; rfl
  | succ levels ih =>
    funext inBody position after trace
    rw [Nat.add_right_comm]
    by_cases member : position ∈ trace.unterminated
    · rw [attempt_known member, attemptWithin, if_pos member]
    · rw [attemptWithin, if_neg member]
      cases opening : Opening.read after with
      | default name trigger size =>
        have shape := Opening.read_shape after
        rw [opening] at shape
        obtain ⟨named, rfl, body, rfl⟩ := shape
        rw [attempt_start inBody named member, ih]
        simp only [List.drop_left]
      | _ => simp [attempt, member, opening]

/-- Scans come to the same if their attempts do at every `$` with fewer dollar signs behind it than a text has. -/
theorem scan_of_few {one two : Nat → Text → Trace → Attempt × Trace} {bound : Nat}
    (same : ∀ position after trace, after.count (.char '$') < bound → one position after trace = two position after trace)
    (inBody : Bool) (done : List Piece) (skip : Nat) {text : Text} (position : Nat) (trace : Trace)
    (few : text.count (.char '$') ≤ bound) :
    scan one inBody done skip text position trace = scan two inBody done skip text position trace := by
  induction text generalizing done skip position trace with
  | nil => rfl
  | cons s rest ih =>
    have fewer : rest.count (.char '$') ≤ bound := Nat.le_trans List.count_le_count_cons few
    cases skip with
    | succ skip => exact ih _ _ _ _ fewer
    | zero =>
      rw [scan, scan]
      split
      · rfl
      · split
        · exact ih _ _ _ _ fewer
        · split
          · rename_i dollar
            have less : rest.count (.char '$') < bound := by
              rw [dollar, List.count_cons_self] at few
              exact few
            rw [same position rest trace less]
            split
            · exact ih _ _ _ _ fewer
            · exact ih _ _ _ _ fewer
            · rfl
            · rfl
          · exact ih _ _ _ _ fewer

/-- Where fewer dollar signs follow than defaults may be nested, the limit takes no part in an attempt. -/
theorem attemptWithin_of_few {levels : Nat} (inBody : Bool) (position : Nat) {after : Text} (trace : Trace)
    (few : after.count (.char '$') < levels) :
    attemptWithin limited levels inBody position after trace = attemptWithin other levels inBody position after trace := by
  induction levels generalizing inBody position after trace with
  | zero => exact absurd few (Nat.not_lt_zero _)
  | succ levels ih =>
    rw [attemptWithin, attemptWithin]
    split
    · rfl
    · split
      · rename_i name trigger size _
        have fewer : (after.drop size).count (.char '$') ≤ levels :=
          Nat.le_trans ((List.drop_sublist size after).count_le _) (Nat.le_of_lt_succ few)
        rw [scan_of_few (ih true) true [] 0 _ trace fewer]
      · rfl

/-- A text with no more dollar signs than defaults may be nested is scanned alike whatever becomes of a `$` nested too
    deep. -/
theorem scan_attemptWithin_of_few {levels : Nat} {text : Text} (few : text.count (.char '$') ≤ levels) :
    scan (attemptWithin limited levels false) false [] 0 text 0 .empty =
      scan (attemptWithin other levels false) false [] 0 text 0 .empty :=
  scan_of_few (fun position _ trace less => attemptWithin_of_few false position trace less) false [] 0 0 .empty few

end

/-- A text with no more dollar signs than defaults may be nested is read with the same result and the same remarks under
    every higher limit, and no `$` of it comes to the limit: whatever became of such a `$`, the text would be scanned to
    the same pieces or fault with the same trace. -/
theorem ofText_eq_read {text : Text} {levels : Nat} (few : text.count (.char '$') ≤ maxNesting)
    (more : maxNesting ≤ levels) :
    Reading.ofText levels text = read text ∧
      ∀ limited, scan (attemptWithin limited maxNesting false) false [] 0 text 0 .empty = scanAll maxNesting text := by
  obtain ⟨extra, rfl⟩ := Nat.exists_eq_add_of_le more
  have same (limited : Bool → Nat → Text → Trace → Attempt × Trace) :
      scan (attemptWithin limited maxNesting false) false [] 0 text 0 .empty = scanAll maxNesting text := by
    have unlimited : attempt maxNesting = attemptWithin (attempt 0) maxNesting := attempt_add maxNesting 0
    rw [scanAll, unlimited]
    exact scan_attemptWithin_of_few few
  have higher : scanAll (maxNesting + extra) text = scanAll maxNesting text := by
    rw [scanAll, attempt_add]
    exact same (attempt extra)
  exact ⟨by rw [read, Reading.ofText, Reading.ofText, higher], same⟩

/-- As many defaults inside one another as may be, but one, with a variable inside them all. -/
theorem ofText_eq_read_nested :
    let text := (List.replicate 31 (Text.ofString "$\x7ba=")).flatten ++ Text.ofString "$b" ++ List.replicate 31 (.char '}')
    text.count (.char '$') ≤ maxNesting ∧ maxNesting ≤ 33 ∧ Reading.ofText 33 text = read text ∧
      ∀ limited, scan (attemptWithin limited maxNesting false) false [] 0 text 0 .empty = scanAll maxNesting text := by
  intro text
  have few : text.count (.char '$') ≤ maxNesting := by decide +kernel
  have more : maxNesting ≤ 33 := by decide
  exact ⟨few, more, ofText_eq_read few more⟩

/-- One `$` more comes to the limit: nothing is remarked on it. -/
example :
    let text := (List.replicate 32 (Text.ofString "$\x7ba=")).flatten ++ .char '$' :: List.replicate 32 (.char '}')
    text.count (.char '$') = maxNesting + 1 ∧ (read text).remarks = [] ∧
      (Reading.ofText 33 text).remarks = [.noExpression 128] := by
  decide +kernel

end Template

end ShellTemplate
