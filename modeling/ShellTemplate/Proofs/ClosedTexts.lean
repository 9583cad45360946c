import ShellTemplate.Proofs.CanonicalReading
import ShellTemplate.Proofs.Traces

/-!
# Texts that leave nothing open

A text is closed if reading it finds no expression that its end cuts off. Then every `$` in it is settled
without a look at what was remembered, and the text is put together by the constructors of `Plain.Closed`:
what can be said about the scan of a closed text is said by induction on them.
-/

namespace ShellTemplate

namespace Plain

/-- How a text that leaves nothing open is read to a template, where `levels` defaults may be nested. -/
inductive Closed (levels : Nat) : Text → Template → Prop
  | nil : Closed levels [] []
  | escape {rest : Text} {template : Template} (later : Closed levels rest template) :
      Closed levels (.char '\\' :: .char '$' :: rest) (Template.consSymbol (.char '$') template)
  | kept {position : Nat} {rest : Text} {template : Template} (kept : attempt levels position rest = .kept)
      (later : Closed levels rest template) :
      Closed levels (.char '$' :: rest) (Template.consSymbol (.char '$') template)
  | found {position size : Nat} {rest : Text} {node : Node} {starts : List Nat} {template : Template}
      (found : attempt levels position rest = .found node size starts) (later : Closed levels (rest.drop size) template) :
      Closed levels (.char '$' :: rest) (node :: template)
  | symbol {s : Symbol} {rest : Text} {template : Template} (bare : s = .char '\\' → rest.head? ≠ some (.char '$'))
      (other : s ≠ .char '$') (later : Closed levels rest template) :
      Closed levels (s :: rest) (Template.consSymbol s template)

theorem kept_at {levels position : Nat} {after : Text} (kept : attempt levels position after = .kept) (other : Nat) :
    attempt levels other after = .kept :=
  attempt_eq_kept_iff.2 (attempt_eq_kept_iff.1 kept)

/-- What comes of a `$` does not depend on its offset, but for the offsets that are given. -/
theorem found_at {levels position size : Nat} {after : Text} {node : Node} {starts : List Nat}
    (found : attempt levels position after = .found node size starts) (other : Nat) :
    ∃ starts', attempt levels other after = .found node size starts' := by
  have here := attempt_shift levels position 0 after
  have there := attempt_shift levels other 0 after
  rw [Nat.zero_add] at here there
  rw [found] at here
  cases tried : attempt levels 0 after with
  | found own length places =>
    rw [tried] at here there
    cases here
    exact ⟨_, there⟩
  | kept => rw [tried] at here; cases here
  | unterminated => rw [tried] at here; cases here
  | malformed fault => rw [tried] at here; cases here

theorem ne_literal_of_found {levels position size : Nat} {after : Text} {node : Node} {starts : List Nat}
    (found : attempt levels position after = .found node size starts) (text : Text) : node ≠ .literal text :=
  (canonical_of_found false found).2 text

end Plain

namespace Template

/-- A text that is read with nothing remembered and no remark on an expression cut off leaves nothing open. -/
theorem closed_of_scan {levels position stop : Nat} {text : Text} {trace : Trace} {pieces : List Piece}
    (fresh : trace.unterminated = [])
    (closed : (scan (attempt levels false) false [] 0 text position trace).1 = .closed pieces stop)
    (quiet : ∀ place, .unterminated place ∉ (scan (attempt levels false) false [] 0 text position trace).2.remarks) :
    Plain.Closed levels text (ofPieces pieces) := by
  induction text using scanInduction false generalizing position trace pieces with
  | ended =>
    cases closed
    exact .nil
  | closing rest inside => cases inside
  | escape rest ih =>
    rw [scan_escape] at closed quiet
    obtain ⟨more, tail, rfl⟩ := Scan.prepend_eq_closed closed
    exact .escape (ih fresh tail quiet)
  | dollar rest ih =>
    obtain ⟨trace', tried, remembered⟩ := attempt_plain levels false position fresh rest
    cases plain : Plain.attempt levels position rest with
    | found node size starts =>
      rw [plain] at tried remembered
      rw [scan_found tried (Plain.attempt_fits levels plain)] at closed quiet
      obtain ⟨more, tail, rfl⟩ := Scan.prepend_eq_closed closed
      exact .found plain (ih size (remembered (by simp)) tail quiet)
    | kept =>
      rw [plain] at tried remembered
      rw [scan_kept tried] at closed quiet
      obtain ⟨more, tail, rfl⟩ := Scan.prepend_eq_closed closed
      exact .kept plain (ih 0 (remembered (by simp)) tail quiet)
    | unterminated =>
      -- The `$` would have been remarked on, and remarks stay.
      rw [plain] at tried
      rw [scan_kept tried] at quiet
      have remark : .unterminated position ∈ ((trace'.addUnterminated position).addRemark (.unterminated position)).remarks :=
        List.mem_cons_self
      exact absurd ((remarks_scan (remarks_attempt levels false) false [] 0 rest _ _).subset remark) (quiet position)
    | malformed fault =>
      rw [plain] at tried
      rw [scan_malformed tried] at closed
      cases closed
  | symbol s rest open_ bare other ih =>
    rw [scan_symbol open_ bare other] at closed quiet
    obtain ⟨more, tail, rfl⟩ := Scan.prepend_eq_closed closed
    exact .symbol bare other (ih fresh tail quiet)

/-- A text that is read to a template without a remark on an expression cut off leaves nothing open. -/
theorem closed_of_parse {text : Text} {template : Template} (parsed : parse text = .ok template)
    (quiet : (read text).isClosed = true) : Plain.Closed maxNesting text template := by
  simp only [Reading.isClosed, read, Reading.ofText, List.all_reverse, List.all_eq_true] at quiet
  simp only [parse, read, Reading.template, Reading.ofText] at parsed
  cases scanned : (scanAll maxNesting text).1 with
  | closed pieces stop =>
    rw [scanned] at parsed
    cases parsed
    refine closed_of_scan rfl scanned ?_
    intro place remark
    cases quiet _ remark
  | unterminated => exact absurd scanned (scanAll_ne_unterminated maxNesting text)
  | malformed fault =>
    rw [scanned] at parsed
    cases parsed

end Template

end ShellTemplate
