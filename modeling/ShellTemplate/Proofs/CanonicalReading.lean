import ShellTemplate.Proofs.Numbers
import ShellTemplate.Proofs.PlainReading

/-!
# Templates that are read are canonical

Every clause of `Template.isCanonical` is settled where a piece of the text is read: what an operator is
made of by its sigil and its payload, what stands in a body by the brace at which it ends, and the
nesting by the levels that are left.
-/

namespace ShellTemplate

namespace PayloadForm

theorem readSubstring_canonical {payload : Text} {operator : Operator}
    (read : readSubstring payload = .ok operator) :
    operator.isCanonical = true := by
  unfold readSubstring at read
  split at read
  rename_i offsetText lengthText? _
  cases offset : offsetText.toInt? with
  | none => simp [offset] at read
  | some n =>
    have readable := Text.isReadable_of_toInt? offset
    cases lengthText? with
    | none =>
      simp only [offset, Except.ok.injEq] at read
      subst read
      simpa [Operator.isCanonical] using readable
    | some lengthText =>
      cases length : lengthText.toInt? with
      | none => simp [offset, length] at read
      | some count =>
        simp only [offset, length] at read
        split at read
        · cases read
        · cases read
          simp [Operator.isCanonical, readable, Text.isReadable_of_toInt? length]
          omega

theorem readReplacement_canonical {which : Occurrence} {payload rest : Text} {operator : Operator}
    (clean : .char '}' ∉ payload)
    (settled : (Sigil.payload (.replace which)).isSettledBy (payload ++ .char '}' :: rest))
    (read : readReplacement which payload = .ok operator) : operator.isCanonical = true := by
  unfold readReplacement at read
  cases cut : payload.cut? [.char '/'] with
  | none =>
    have plain := Text.cut?_eq_none_iff.1 cut
    simp only [cut] at read
    split at read
    · rename_i all
      cases read
      simp [Operator.isCanonical, Operator.isInner, clean, plain, all]
    · cases read
  | some parts =>
    obtain ⟨pattern, replacement⟩ := parts
    obtain ⟨rfl, plain⟩ := Text.cut?_eq_some_iff.1 cut
    simp only [cut] at read
    cases read
    simp only [List.mem_append, List.mem_cons, not_or] at clean
    have starts : which = .first → Operator.isCanonical.startsPlainly pattern = true := by
      rintro rfl
      cases pattern with
      | nil => simp [Sigil.isSettledBy] at settled
      | cons s more =>
        simp [Sigil.isSettledBy] at settled
        simp [Operator.isCanonical.startsPlainly, settled]
    cases which <;> simp_all [Operator.isCanonical, Operator.isInner]

/-- What a payload means to its form is an operator in canonical form. -/
theorem operator_canonical {form : PayloadForm} {payload rest : Text} {operator : Operator}
    (clean : .char '}' ∉ payload)
    (settled : (Sigil.payload form).isSettledBy (payload ++ .char '}' :: rest)) (read : form.operator payload = .ok operator) :
    operator.isCanonical = true := by
  cases form with
  | substring => exact readSubstring_canonical read
  | replace which => exact readReplacement_canonical clean settled read
  | remove edge longest =>
    cases read
    cases edge <;> cases longest <;> cases payload <;>
      simp_all [Operator.isCanonical, Operator.isInner, Sigil.isSettledBy]

end PayloadForm

namespace Opening

/-- Whether the operator of an expression without a body is canonical. -/
def IsCanonical : Opening → Prop
  | .complete _ operator _ => operator.isCanonical = true
  | _ => True

theorem ofSigil_canonical {sigil : Sigil} {rest : Text} (settled : sigil.isSettledBy rest) (name : Text)
    (size : Nat) :
    (ofSigil name sigil size rest).IsCanonical := by
  unfold ofSigil
  cases sigil with
  | changeCase letters extent =>
    dsimp only
    split <;> trivial
  | default trigger => trivial
  | payload form =>
    dsimp only
    split
    · trivial
    · rename_i payload back found
      obtain ⟨rfl, clean⟩ := Text.cut?_eq_some_iff.1 found
      split
      · trivial
      · rename_i operator read
        exact PayloadForm.operator_canonical clean settled read

theorem read_canonical (after : Text) : (read after).IsCanonical := by
  have afterName : ∀ name size rest, (afterName name size rest).IsCanonical := by
    intro name size rest
    unfold Opening.afterName
    split
    · trivial
    · rfl
    · split
      · trivial
      · rename_i sigil back found
        exact ofSigil_canonical (Sigil.read?_eq_some_iff.1 found).2 name _
  have braced : ∀ rest, (braced rest).IsCanonical := by
    intro rest
    unfold Opening.braced lengthForm
    repeat' split
    all_goals first | trivial | rfl | exact afterName _ _ _
  unfold read
  split
  · exact braced _
  · split
    · trivial
    · rfl

end Opening

namespace Template

/-- Whether a template does not begin with an expression. -/
def startsPlainly (template : Template) : Prop :=
  ∀ node ∈ template.head?, ∃ text, node = .literal text

variable {levels : Nat} {inBody : Bool} {template : Template}

theorem consSymbol_startsPlainly (s : Symbol) (template : Template) :
    (consSymbol s template).startsPlainly := by
  unfold consSymbol
  split
  · rintro node ⟨rfl⟩
    exact ⟨_, rfl⟩
  · rintro node ⟨rfl⟩
    exact ⟨_, rfl⟩

/-- One more symbol of text keeps a template canonical if it could not be read otherwise there. -/
theorem consSymbol_canonical {s : Symbol}
    (clean : s = .char '}' → inBody = false) (bare : s = .char '\\' → template.startsPlainly)
    (canonical : isCanonical levels inBody template = true) :
    isCanonical levels inBody (consSymbol s template) = true := by
  unfold consSymbol
  split
  · rename_i text rest
    simp only [isCanonical, Node.isCanonical, Bool.and_eq_true] at canonical ⊢
    obtain ⟨⟨⟨nonempty, inside⟩, precedes⟩, after⟩ := canonical
    obtain ⟨t, more, rfl⟩ := List.exists_cons_of_ne_nil (l := text) (by simpa using nonempty)
    refine ⟨⟨⟨rfl, ?_⟩, ?_⟩, after⟩
    · cases inBody with
      | false => rfl
      | true =>
        have other : s ≠ .char '}' := fun same => by cases clean same
        simpa [Ne.symm other] using inside
    · cases rest with
      | nil => rfl
      | cons node rest =>
        cases node with
        | literal text => cases precedes
        | expression name operator => simpa [Node.mayPrecede] using precedes
        | default name trigger body => simpa [Node.mayPrecede] using precedes
  · simp only [isCanonical, Node.isCanonical, Bool.and_eq_true]
    refine ⟨⟨⟨rfl, ?_⟩, ?_⟩, canonical⟩
    · cases inBody with
      | false => rfl
      | true =>
        have other : s ≠ .char '}' := fun same => by cases clean same
        simp [Ne.symm other]
    · rename_i notLiteral
      cases template with
      | nil => rfl
      | cons node rest =>
        have plain : s ≠ .char '\\' := by
          intro same
          obtain ⟨text, rfl⟩ := bare same node rfl
          exact notLiteral text rest rfl
        cases node with
        | literal text => exact absurd rfl (notLiteral text rest)
        | expression name operator => simp [Node.mayPrecede, plain]
        | default name trigger body => simp [Node.mayPrecede, plain]

theorem cons_canonical {node : Node} (own : node.isCanonical levels inBody = true)
    (other : ∀ text, node ≠ .literal text)
    (canonical : isCanonical levels inBody template = true) :
    isCanonical levels inBody (node :: template) = true := by
  have precedes : node.mayPrecede template = true := by
    cases node with
    | literal text => exact absurd rfl (other text)
    | expression name operator => cases template <;> rfl
    | default name trigger body => cases template <;> rfl
  simp [isCanonical, own, precedes, canonical]

end Template

namespace Plain

theorem closed_startsPlainly {attempt : Nat → Text → Attempt} {inBody : Bool} {text : Text}
    {position stop : Nat}
    {pieces : List Piece} (plain : text.head? ≠ some (.char '$'))
    (closed : scan attempt inBody 0 text position = .closed pieces stop) :
    (Template.ofPieces pieces).startsPlainly := by
  cases text using scanInduction inBody with
  | ended =>
    cases inBody <;> cases closed
    simp [Template.ofPieces, Template.startsPlainly]
  | closing rest inside =>
    subst inside
    rw [scan_closing] at closed
    cases closed
    simp [Template.ofPieces, Template.startsPlainly]
  | escape rest =>
    rw [scan_escape] at closed
    obtain ⟨more, -, rfl⟩ := Scan.prepend_eq_closed closed
    exact Template.consSymbol_startsPlainly _ _
  | dollar rest => exact absurd rfl plain
  | symbol s rest open_ bare other =>
    rw [scan_symbol open_ bare other] at closed
    obtain ⟨more, -, rfl⟩ := Scan.prepend_eq_closed closed
    exact Template.consSymbol_startsPlainly _ _

/-- What a scan closes is canonical, as long as the expressions in it are. -/
theorem canonical_of_closed {levels : Nat} {inBody : Bool}
    (found : ∀ {position rest node size starts}, attempt levels position rest = .found node size starts →
      node.isCanonical levels inBody = true ∧ ∀ text, node ≠ .literal text)
    {text : Text} {position stop : Nat} {pieces : List Piece}
    (closed : scan (attempt levels) inBody 0 text position = .closed pieces stop) :
    Template.isCanonical levels inBody (Template.ofPieces pieces) = true := by
  induction text using scanInduction inBody generalizing position pieces with
  | ended =>
    cases inBody
    · cases closed
      rfl
    · cases closed
  | closing rest inside =>
    subst inside
    rw [scan_closing] at closed
    cases closed
    rfl
  | escape rest ih =>
    rw [scan_escape] at closed
    obtain ⟨more, tail, rfl⟩ := Scan.prepend_eq_closed closed
    exact Template.consSymbol_canonical (fun same => by cases same) (fun same => by cases same) (ih tail)
  | dollar rest ih =>
    rcases scan_dollar (attempt_fits levels) inBody position rest with
      ⟨node, size, starts, tried, -, scanned⟩ | ⟨-, scanned⟩ | ⟨-, -, scanned⟩ | ⟨fault, -, scanned⟩ <;>
      rw [scanned] at closed
    · obtain ⟨more, tail, rfl⟩ := Scan.prepend_eq_closed closed
      obtain ⟨own, other⟩ := found tried
      exact Template.cons_canonical own other (ih size tail)
    · obtain ⟨more, tail, rfl⟩ := Scan.prepend_eq_closed closed
      exact Template.consSymbol_canonical (fun same => by cases same) (fun same => by cases same) (ih 0 tail)
    · cases closed
    · cases closed
  | symbol s rest open_ bare other ih =>
    rw [scan_symbol open_ bare other] at closed
    obtain ⟨more, tail, rfl⟩ := Scan.prepend_eq_closed closed
    exact Template.consSymbol_canonical open_ (fun same => closed_startsPlainly (bare same) tail) (ih tail)

/-- An expression that is found is canonical. -/
theorem canonical_of_found {levels position : Nat} {after : Text} {node : Node} {size : Nat}
    {starts : List Nat} (inBody : Bool)
    (found : attempt levels position after = .found node size starts) :
    node.isCanonical levels inBody = true ∧ ∀ text, node ≠ .literal text := by
  induction levels generalizing position after node size starts inBody with
  | zero => cases found
  | succ levels ih =>
    have tried := attempt_tried levels position after
    rw [found] at tried
    cases tried with
    | complete opening =>
      have shape := Opening.read_shape after
      have canonical := Opening.read_canonical after
      rw [opening] at shape canonical
      exact ⟨by simp [Node.isCanonical, shape.1, show Operator.isCanonical _ = true from canonical], by simp⟩
    | closed named scanned =>
      have body := canonical_of_closed (fun found => ih true found) scanned
      exact ⟨by simp [Node.isCanonical, named, body], by simp⟩

end Plain

namespace Template

/-- Every template that is read is canonical. -/
theorem isCanonical_of_parse {text : Text} {template : Template} (read : parse text = .ok template) :
    isCanonical maxNesting false template = true := by
  obtain ⟨pieces, stop, closed, rfl⟩ := parse_eq_ok_iff.1 read
  exact Plain.canonical_of_closed (Plain.canonical_of_found false) closed

theorem isCanonical_of_parse_in_default :
    let text := Text.ofString "a\\$" ++ Text.braced (Text.ofString "b:=" ++ Text.braced (Text.ofString "c#d")) ++
      Text.ofString "$\x7be"
    let template : Template := [.literal (Text.ofString "a$"), .default [.char 'b'] .unsetOrEmpty
      [.expression [.char 'c'] (.remove .leading false [.char 'd'])], .literal (Text.ofString "$\x7be")]
    parse text = .ok template ∧ isCanonical maxNesting false template = true := by
  intro text template
  have read : parse text = .ok template := rfl
  exact ⟨read, isCanonical_of_parse read⟩

end Template

end ShellTemplate
