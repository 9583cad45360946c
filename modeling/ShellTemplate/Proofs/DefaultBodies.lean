import ShellTemplate.Proofs.ClosedTexts
import ShellTemplate.Proofs.Printing
import ShellTemplate.Template.Evaluation

/-!
# Texts as bodies of defaults

In a body one level of nesting is gone and the first brace outside an expression ends the text. Neither
matters to a closed text that leaves a level unused and has no such brace: as the body of a default it is
read to the template it has by itself.
-/

namespace ShellTemplate

mutual

/-- How deep expressions are nested in a node. -/
def Node.depth : Node → Nat
  | .literal _ => 0
  | .expression _ _ => 1
  | .default _ _ body => Template.depth body + 1

/-- How deep expressions are nested in a template. -/
def Template.depth : List Node → Nat
  | [] => 0
  | node :: rest => max node.depth (Template.depth rest)

end

namespace Template

/-- Whether no literal outside the bodies in a template has a closing brace. -/
def fitsInBody (template : Template) : Bool :=
  template.all fun node => match node with | .literal text => !text.contains (.char '}') | _ => true

theorem depth_consSymbol (s : Symbol) (template : Template) : depth (consSymbol s template) = depth template := by
  unfold consSymbol
  split <;> simp [depth, Node.depth]

theorem fitsInBody_of_cons {node : Node} {rest : Template} (fits : fitsInBody (node :: rest) = true) :
    rest.fitsInBody = true := by
  rw [fitsInBody, List.all_cons, Bool.and_eq_true] at fits
  exact fits.2

theorem fitsInBody_of_consSymbol {s : Symbol} {template : Template} (fits : (consSymbol s template).fitsInBody = true) :
    s ≠ .char '}' ∧ template.fitsInBody = true := by
  unfold consSymbol at fits
  split at fits
  · simp only [fitsInBody, List.all_cons, Bool.and_eq_true, List.contains_cons, Bool.not_or] at fits ⊢
    obtain ⟨⟨here, text⟩, rest⟩ := fits
    exact ⟨Ne.symm (by simpa using here), text, rest⟩
  · have here := List.all_eq_true.1 fits _ List.mem_cons_self
    exact ⟨Ne.symm (by simpa using here), fitsInBody_of_cons fits⟩

end Template

namespace Plain

theorem kept_below {levels position : Nat} {after : Text} (kept : attempt (levels + 1) position after = .kept)
    (lower other : Nat) : attempt lower other after = .kept :=
  attempt_absent ((attempt_eq_kept_iff.1 kept).resolve_left (Nat.succ_ne_zero levels))

/-- A body with no more expressions inside one another than there are levels is closed with one level less, if
    its expressions are found. -/
private theorem scan_of_depth {levels : Nat}
    (found_below : ∀ {position after node size starts}, attempt (levels + 1) position after = .found node size starts →
      node.depth ≤ levels → attempt levels position after = .found node size starts)
    {text : Text} {position stop : Nat} {pieces : List Piece}
    (closed : scan (attempt (levels + 1)) true 0 text position = .closed pieces stop)
    (shallow : Template.depth (Template.ofPieces pieces) ≤ levels) :
    scan (attempt levels) true 0 text position = .closed pieces stop := by
  induction text using scanInduction true generalizing position pieces with
  | ended => cases closed
  | closing rest _ =>
    rw [scan_closing] at closed ⊢
    exact closed
  | escape rest ih =>
    rw [scan_escape] at closed ⊢
    obtain ⟨more, tail, rfl⟩ := Scan.prepend_eq_closed closed
    rw [ih tail (by rwa [← Template.depth_consSymbol (.char '$')])]
    rfl
  | dollar rest ih =>
    rcases scan_dollar (attempt_fits (levels + 1)) true position rest with
      ⟨node, size, starts, tried, fits, scanned⟩ | ⟨kept | ⟨-, outside⟩, scanned⟩ | ⟨-, -, scanned⟩ | ⟨fault, -, scanned⟩
    · rw [scanned] at closed
      obtain ⟨more, tail, rfl⟩ := Scan.prepend_eq_closed closed
      have parts : node.depth ≤ levels ∧ Template.depth (Template.ofPieces more) ≤ levels := Nat.max_le.1 shallow
      rw [scan_found (found_below tried parts.1) fits, ih size tail parts.2]
      rfl
    · rw [scanned] at closed
      obtain ⟨more, tail, rfl⟩ := Scan.prepend_eq_closed closed
      have further := ih 0 tail (by rwa [← Template.depth_consSymbol (.char '$')])
      rw [List.drop_zero] at further
      rw [scan_kept (kept_below kept levels position), further]
      rfl
    · cases outside
    · rw [scanned] at closed
      cases closed
    · rw [scanned] at closed
      cases closed
  | symbol s rest open_ bare other ih =>
    rw [scan_symbol open_ bare other] at closed ⊢
    obtain ⟨more, tail, rfl⟩ := Scan.prepend_eq_closed closed
    rw [ih tail (by rwa [← Template.depth_consSymbol s])]
    rfl

/-- An expression that leaves a level unused is found with one level less. -/
theorem attempt_of_depth {levels position size : Nat} {after : Text} {node : Node} {starts : List Nat}
    (found : attempt (levels + 1) position after = .found node size starts) (shallow : node.depth ≤ levels) :
    attempt levels position after = .found node size starts := by
  induction levels generalizing position after node size starts with
  | zero =>
    -- Every expression is one deep at least.
    have tried := attempt_tried 0 position after
    rw [found] at tried
    cases tried with
    | complete opening => cases shallow
    | closed named scanned => cases shallow
  | succ levels ih =>
    have tried := attempt_tried (levels + 1) position after
    rw [found] at tried
    cases tried with
    | complete opening => exact attempt_complete opening
    | closed named scanned =>
      have body := scan_of_depth ih scanned (Nat.le_of_succ_le_succ shallow)
      exact attempt_closed (Opening.read_start named _ _) (by rwa [List.drop_left])

/-- A closed text that leaves a level unused and has no brace outside its expressions is read as a body to the
    template it has by itself. -/
theorem scan_body_of_closed {levels : Nat} {text : Text} {template : Template} (closed : Closed (levels + 1) text template)
    (shallow : Template.depth template ≤ levels) (clean : template.fitsInBody = true) (tail : Text) (position : Nat) :
    ∃ pieces, Template.ofPieces pieces = template ∧
      scan (attempt levels) true 0 (text ++ .char '}' :: tail) position =
        (scan (attempt levels) true 0 (.char '}' :: tail) (position + text.length)).prepend pieces := by
  induction closed generalizing position with
  | nil => exact ⟨[], rfl, by simp⟩
  | @escape rest template later ih =>
    rw [Template.depth_consSymbol] at shallow
    obtain ⟨pieces, rfl, scanned⟩ := ih shallow (Template.fitsInBody_of_consSymbol clean).2 (position + 2)
    refine ⟨.escapedDollar :: pieces, rfl, ?_⟩
    rw [List.cons_append, List.cons_append, scan_escape, scanned, Scan.prepend_prepend]
    simp [Nat.add_comm, Nat.add_left_comm]
  | @kept place rest template kept later ih =>
    rw [Template.depth_consSymbol] at shallow
    obtain ⟨pieces, rfl, scanned⟩ := ih shallow (Template.fitsInBody_of_consSymbol clean).2 (position + 1)
    -- No expression begins with the brace, be it right after the `$` or after a length form.
    have longer : attempt levels position (rest ++ .char '}' :: tail) = .kept :=
      attempt_append_of_kept (kept_below kept levels position) (fun _ => rfl) (fun _ => rfl)
    refine ⟨.symbol (.char '$') :: pieces, rfl, ?_⟩
    rw [List.cons_append, scan_kept longer, scanned, Scan.prepend_prepend]
    simp [Nat.add_comm, Nat.add_left_comm]
  | @found place size rest node starts template found later ih =>
    have parts : node.depth ≤ levels ∧ Template.depth template ≤ levels := Nat.max_le.1 shallow
    obtain ⟨pieces, rfl, scanned⟩ := ih parts.2 (Template.fitsInBody_of_cons clean) (position + 1 + size)
    obtain ⟨starts', here⟩ := found_at (attempt_of_depth found parts.1) position
    have fits := attempt_fits levels here
    have ends : Text.endsName (.char '}' :: tail) := by
      rintro s ⟨rfl⟩
      rfl
    have longer := attempt_append_of_found here fun _ _ _ => ends
    refine ⟨.expression node (size + 1) starts' :: pieces, rfl, ?_⟩
    rw [List.cons_append, scan_found longer (attempt_fits levels longer), List.drop_append_of_le_length fits, scanned,
      Scan.prepend_prepend]
    have place : position + 1 + size + (rest.drop size).length = position + (Symbol.char '$' :: rest).length := by
      rw [List.length_drop, List.length_cons]
      omega
    rw [place]
    rfl
  | @symbol s rest template bare other later ih =>
    rw [Template.depth_consSymbol] at shallow
    obtain ⟨inside, clean⟩ := Template.fitsInBody_of_consSymbol clean
    obtain ⟨pieces, rfl, scanned⟩ := ih shallow clean (position + 1)
    refine ⟨.symbol s :: pieces, rfl, ?_⟩
    rw [List.cons_append, scan_symbol (fun same => absurd same inside) (bare_append_closing bare tail) other, scanned,
      Scan.prepend_prepend]
    simp [Nat.add_comm, Nat.add_left_comm]

end Plain

theorem Trigger.settled?_none (trigger : Trigger) : trigger.settled? none = none := by
  cases trigger <;> rfl

theorem Trigger.settled?_of_ne_nil {value : Text} (nonempty : value ≠ []) (trigger : Trigger) :
    trigger.settled? (some value) = some value := by
  obtain ⟨s, rest, rfl⟩ := List.exists_cons_of_ne_nil nonempty
  cases trigger <;> rfl

namespace Template

/-- A closed text can be the body of a default: it has the same template there, and is what the default
    expands to where its variable is unset. -/
theorem parse_default {name body : Text} {template : Template} (named : name.isName = true)
    (parsed : parse body = .ok template) (quiet : (read body).isClosed = true) (clean : template.fitsInBody = true)
    (shallow : depth template < maxNesting) (trigger : Trigger) :
    let whole := Text.braced (name ++ (Sigil.default trigger).text ++ body)
    parse whole = .ok [.default name trigger template] ∧
      (∀ lookup, lookup name = none → expand lookup whole = expand lookup body) ∧
        ∀ lookup value, lookup name = some value → value ≠ [] → expand lookup whole = .ok value := by
  intro whole
  have nested : parse whole = .ok [.default name trigger template] := by
    have closed := closed_of_parse parsed quiet
    obtain ⟨levels, limit⟩ : ∃ levels, maxNesting = levels + 1 := Nat.exists_eq_succ_of_ne_zero (Nat.ne_zero_of_lt shallow)
    rw [limit] at closed shallow
    obtain ⟨pieces, rfl, scanned⟩ :=
      Plain.scan_body_of_closed closed (Nat.le_of_lt_succ shallow) clean [] (0 + 1 + (Opening.start name trigger).length)
    have passed := @Plain.scan_braced _ false _ [] 0 _ _ (Plain.found_print_default named scanned)
    rw [List.append_nil, Plain.scan_nil, ← limit] at passed
    exact parse_eq_ok_iff.2 ⟨_, _, passed, rfl⟩
  refine ⟨nested, ?_, ?_⟩
  · intro lookup unset
    simp [expand, nested, parsed, Except.map, unset, Trigger.settled?_none]
  · intro lookup value set nonempty
    simp [expand, nested, Except.map, set, Trigger.settled?_of_ne_nil nonempty]

theorem parse_default_with_dollar :
    let name : Text := [.char 'x']
    let body := Text.braced (Text.ofString "a:=$b") ++ Text.ofString "\\$c$"
    let template : Template := [.default [.char 'a'] .unsetOrEmpty [.expression [.char 'b'] .value],
      .literal (Text.ofString "$c$")]
    name.isName = true ∧ parse body = .ok template ∧ (read body).isClosed = true ∧ template.fitsInBody = true ∧
      depth template < maxNesting ∧
      parse (Text.braced (name ++ (Sigil.default .unset).text ++ body)) = .ok [.default name .unset template] := by
  intro name body template
  have named : name.isName = true := rfl
  have parsed : parse body = .ok template := rfl
  have quiet : (read body).isClosed = true := rfl
  have clean : template.fitsInBody = true := rfl
  have shallow : depth template < maxNesting := by decide
  exact ⟨named, parsed, quiet, clean, shallow, (parse_default named parsed quiet clean shallow .unset).1⟩

end Template

end ShellTemplate
