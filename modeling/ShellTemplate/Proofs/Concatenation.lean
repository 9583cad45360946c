import ShellTemplate.Proofs.ClosedTexts

/-!
# Texts one after the other

A closed text in front of another is read as it is by itself, unless its last symbols would go on in the
text after it, and that text is read as it is by itself, further on. So the template of the two is their
templates one after the other, and a fault of the second stands further on.
-/

namespace ShellTemplate

/-- Whether the end of a text settles what stands there: it is no backslash that may escape a `$`, no `$`
    and no length form that wait for a name, and no name. -/
structure Text.EndsSettled (text : Text) : Prop where
  backslash : text.getLast? ≠ some (.char '\\')
  dollar : text.getLast? ≠ some (.char '$')
  length : ¬ [.char '$', .char '{', .char '#'] <:+ text
  name : ∀ s ∈ text.getLast?, s.continuesName = false

theorem Text.EndsSettled.of_append {front rest : Text} (settled : (front ++ rest).EndsSettled) : rest.EndsSettled := by
  have last : ∀ s ∈ rest.getLast?, s ∈ (front ++ rest).getLast? := by
    intro s member
    rw [List.getLast?_append, Option.mem_def.1 member]
    rfl
  constructor
  · intro same
    exact settled.backslash (last _ same)
  · intro same
    exact settled.dollar (last _ same)
  · intro suffix
    exact settled.length (suffix.trans (List.suffix_append front rest))
  · intro s member
    exact settled.name s (last s member)

namespace Template

/-- Two templates one after the other, where two literals at the seam become one. -/
def join (front back : Template) : Template :=
  match front.getLast?, back with
  | some (.literal text), .literal more :: rest => front.dropLast ++ .literal (text ++ more) :: rest
  | _, _ => front ++ back

/-- What is not at the seam stays in front. -/
theorem join_cons {node : Node} {front : Template} (apart : ∀ text, node = .literal text → front ≠ []) (back : Template) :
    join (node :: front) back = node :: join front back := by
  cases front with
  | nil =>
    cases node with
    | literal text => exact absurd rfl (apart text rfl)
    | expression name operator => rfl
    | default name trigger body => rfl
  | cons next front =>
    unfold join
    rw [List.getLast?_cons_cons]
    split
    · rw [List.dropLast_cons_cons, List.cons_append]
    · rfl

theorem consSymbol_cons {node : Node} (other : ∀ text, node ≠ .literal text) (s : Symbol) (rest : Template) :
    consSymbol s (node :: rest) = .literal [s] :: node :: rest := by
  cases node with
  | literal text => exact absurd rfl (other text)
  | expression name operator => rfl
  | default name trigger body => rfl

theorem join_consSymbol (s : Symbol) (front back : Template) :
    join (consSymbol s front) back = consSymbol s (join front back) := by
  cases front with
  | nil =>
    cases back with
    | nil => rfl
    | cons node rest => cases node <;> rfl
  | cons node front =>
    by_cases literal : ∃ text, node = .literal text
    · obtain ⟨text, rfl⟩ := literal
      cases front with
      | nil =>
        cases back with
        | nil => rfl
        | cons node rest => cases node <;> rfl
      | cons next front =>
        have more : next :: front ≠ [] := List.cons_ne_nil next front
        rw [join_cons fun _ _ => more]
        exact join_cons (fun _ _ => more) back
    · have other : ∀ text, node ≠ .literal text := not_exists.1 literal
      have more : node :: front ≠ [] := List.cons_ne_nil node front
      rw [consSymbol_cons other, join_cons fun _ _ => more, join_cons fun text same => absurd same (other text),
        consSymbol_cons other]

section
variable {levels position : Nat} {front back : Text} {template : Template} {trace : Trace}

/-- Whether `front`, where `back` comes after it, is passed as the pieces of a template, with nothing
    remembered. -/
def PassesInFront (levels : Nat) (front back : Text) (template : Template) (position : Nat) (trace : Trace) : Prop :=
  ∃ pieces trace', trace'.unterminated = [] ∧ (∀ more, ofPieces (pieces ++ more) = join template (ofPieces more)) ∧
    scan (attempt levels false) false [] 0 (front ++ back) position trace =
      (scan (attempt levels false) false [] 0 back (position + front.length) trace').map (Scan.prepend pieces) id

/-- One more piece is passed in front of what is passed. -/
theorem PassesInFront.cons (first : Text) (piece : Piece) {rest : Text} {whole : Template} {trace' : Trace}
    (step : scan (attempt levels false) false [] 0 (first ++ (rest ++ back)) position trace =
      (scan (attempt levels false) false [] 0 (rest ++ back) (position + first.length) trace').map (Scan.prepend [piece]) id)
    (joins : ∀ more, consPiece piece (join template more) = join whole more)
    (later : PassesInFront levels rest back template (position + first.length) trace') :
    PassesInFront levels (first ++ rest) back whole position trace := by
  obtain ⟨pieces, further, fresh, same, scanned⟩ := later
  refine ⟨piece :: pieces, further, fresh, ?_, ?_⟩
  · intro more
    rw [← joins, ← same]
    rfl
  · rw [List.append_assoc, step, scanned, List.length_append, Nat.add_assoc]
    simp [Prod.map]

/-- A closed text whose end is settled is passed as its template, whatever comes after it. -/
theorem passesInFront_of_closed (closed : Plain.Closed levels front template) (settled : front.EndsSettled)
    (fresh : trace.unterminated = []) (back : Text) (position : Nat) :
    PassesInFront levels front back template position trace := by
  induction closed generalizing position trace with
  | nil => exact ⟨[], trace, fresh, fun more => rfl, by simp [Prod.map]⟩
  | @escape rest template later ih =>
    have further := ih (@Text.EndsSettled.of_append [_, _] rest settled) fresh (position + 2)
    exact .cons [_, _] .escapedDollar (scan_escape (rest ++ back)) (fun more => (join_consSymbol _ _ _).symm) further
  | @kept place rest template kept later ih =>
    obtain ⟨trace', tried, remembered⟩ := attempt_plain levels false position fresh (rest ++ back)
    -- The text after a `$` matters only where nothing or a length form is in between.
    have longer : Plain.attempt levels position (rest ++ back) = .kept := by
      refine Plain.attempt_append_of_kept (Plain.kept_at kept position) ?_ ?_
      · rintro rfl
        exact absurd rfl settled.dollar
      · rintro rfl
        exact absurd (List.suffix_refl _) settled.length
    rw [longer] at tried remembered
    have further := ih (@Text.EndsSettled.of_append [_] rest settled) (remembered (by simp)) (position + 1)
    exact .cons [_] (.symbol (.char '$')) (scan_kept tried) (fun more => (join_consSymbol _ _ _).symm) further
  | @found place size rest node starts template found later ih =>
    obtain ⟨trace', tried, remembered⟩ := attempt_plain levels false position fresh (rest ++ back)
    obtain ⟨starts', here⟩ := Plain.found_at found position
    have fits := Plain.attempt_fits levels here
    have longer : Plain.attempt levels position (rest ++ back) = .found node size starts' := by
      refine Plain.attempt_append_of_found here ?_
      intro s last continues
      have stops := (@Text.EndsSettled.of_append [_] rest settled).name s last
      rw [continues] at stops
      cases stops
    rw [longer] at tried remembered
    have split : .char '$' :: rest.take size ++ rest.drop size = .char '$' :: rest := by simp
    have further := ih (@Text.EndsSettled.of_append (.char '$' :: rest.take size) _ (by rwa [split])) (remembered (by simp))
      (position + 1 + size)
    rw [length_front position (.char '$') fits] at further
    rw [← split]
    refine .cons _ (.expression node (size + 1) starts') ?_ ?_ further
    · rw [← List.append_assoc, split, List.cons_append, scan_found tried (Plain.attempt_fits levels longer),
        List.drop_append_of_le_length fits, length_front position (.char '$') fits]
    · intro more
      exact (join_cons (fun text same => absurd same (Plain.ne_literal_of_found found text)) more).symm
  | @symbol s rest template bare other later ih =>
    have unescaped : s = .char '\\' → (rest ++ back).head? ≠ some (.char '$') := by
      cases rest with
      | nil =>
        rintro rfl
        exact absurd rfl settled.backslash
      | cons t rest => exact bare
    have further := ih (@Text.EndsSettled.of_append [_] rest settled) fresh (position + 1)
    exact .cons [_] (.symbol s) (scan_symbol (fun _ => rfl) unescaped other) (fun more => (join_consSymbol _ _ _).symm) further

end

/-- A closed text whose end is settled is read as by itself in front of any other, and the other is read as by
    itself, further on. -/
theorem parse_append {front : Text} {template : Template} (parsed : parse front = .ok template)
    (quiet : (read front).isClosed = true) (settled : front.EndsSettled) (back : Text) :
    parse (front ++ back) =
      match parse back with
      | .ok more => .ok (join template more)
      | .error fault => .error (fault.shift front.length) := by
  obtain ⟨pieces, trace', fresh, joins, scanned⟩ :=
    @passesInFront_of_closed _ _ _ .empty (closed_of_parse parsed quiet) settled rfl back 0
  have further : trace'.unterminated = Trace.empty.unterminated.map (· + front.length) := fresh
  have moved := (scan_relocated (attempt_relocated front.length maxNesting false) false [] 0 back 0 further).result
  have whole : (scanAll maxNesting (front ++ back)).1 = ((scanAll maxNesting back).1.shift front.length).prepend pieces := by
    rw [scanAll, scanned]
    exact congrArg (Scan.prepend pieces) moved
  simp only [parse, read, Reading.template, Reading.ofText, whole]
  cases result : (scanAll maxNesting back).1 with
  | closed more stop => simp [Scan.shift, Scan.prepend, Except.map, joins, ofPieces_shift]
  | unterminated => exact absurd result (scanAll_ne_unterminated maxNesting back)
  | malformed fault => rfl

theorem parse_append_at_fault :
    let front := Text.ofString "$1" ++ Text.braced (Text.ofString "a=$b") ++ Text.ofString "-"
    let back := Text.ofString "c" ++ Text.braced (Text.ofString "d:x")
    let template : Template := [.literal (Text.ofString "$1"), .default [.char 'a'] .unset [.expression [.char 'b'] .value],
      .literal (Text.ofString "-")]
    parse front = .ok template ∧ (read front).isClosed = true ∧ front.EndsSettled ∧
      parse (front ++ back) =
        match parse back with
        | .ok more => .ok (join template more)
        | .error fault => .error (fault.shift front.length) := by
  intro front back template
  have parsed : parse front = .ok template := rfl
  have quiet : (read front).isClosed = true := rfl
  have settled : front.EndsSettled := ⟨by decide, by decide, by decide, by decide⟩
  exact ⟨parsed, quiet, settled, parse_append parsed quiet settled back⟩

end Template

end ShellTemplate
