import Mathlib.Data.List.Forall2
import ShellTemplate.Proofs.Locality
import ShellTemplate.Proofs.CanonicalReading

/-!
# The parts of a text

A text that is read falls into parts, one for each node of its template, and every part is read to its
node by itself: an expression because its own symbols say all of it, and a literal because what is text
stays text when the text after it is cut off.
-/

namespace ShellTemplate

namespace Text

/-- A text with every escaped dollar sign replaced by the dollar sign. -/
def unescapeDollars (text : Text) : Text :=
  text.replaceAll (ofString "\\$") (ofString "$")

theorem unescapeDollars_eq (text : Text) :
    text.unescapeDollars = text.replaceAll [.char '\\', .char '$'] [.char '$'] := rfl

theorem unescapeDollars_escape (rest : Text) :
    unescapeDollars (.char '\\' :: .char '$' :: rest) = .char '$' :: rest.unescapeDollars := by
  rw [unescapeDollars_eq, unescapeDollars_eq, replaceAll_cons (by simp), if_pos (by simp [List.isPrefixOf])]
  rfl

theorem unescapeDollars_symbol {s : Symbol} {rest : Text}
    (bare : s = .char '\\' → rest.head? ≠ some (.char '$')) :
    unescapeDollars (s :: rest) = s :: rest.unescapeDollars := by
  have unescaped : ¬ List.isPrefixOf [.char '\\', .char '$'] (s :: rest) = true := by
    cases rest with
    | nil => simp [List.isPrefixOf]
    | cons t rest =>
      simp only [List.isPrefixOf, Bool.and_true, Bool.and_eq_true, beq_iff_eq, not_and]
      intro same next
      exact bare same.symm (by simp [next])
  rw [unescapeDollars_eq, unescapeDollars_eq, replaceAll_cons (by simp), if_neg unescaped]

end Text

namespace Template

/-- What is in front of a text that is read joins its template, if a scan passes it as a piece. -/
theorem parse_append_iff (front : Text) {rest : Text} {piece : Piece}
    (passed : Plain.scan (Plain.attempt maxNesting) false 0 (front ++ rest) 0 =
      (Plain.scan (Plain.attempt maxNesting) false 0 rest (0 + front.length)).prepend [piece]) {template : Template} :
    parse (front ++ rest) = .ok template ↔ ∃ behind, parse rest = .ok behind ∧ template = consPiece piece behind := by
  rw [Plain.scan_shift] at passed
  simp only [parse_eq_ok_iff, Plain.scanAll, passed]
  cases scanned : Plain.scan (Plain.attempt maxNesting) false 0 rest 0 with
  | closed pieces stop =>
    have whole : ofPieces ([piece] ++ pieces.map (Piece.shift front.length)) = consPiece piece (ofPieces pieces) := by
      rw [← ofPieces_shift front.length pieces]
      rfl
    constructor
    · rintro ⟨_, _, closed, rfl⟩
      cases closed
      exact ⟨_, ⟨pieces, stop, rfl, rfl⟩, whole⟩
    · rintro ⟨_, ⟨_, _, closed, rfl⟩, rfl⟩
      cases closed
      exact ⟨_, _, rfl, whole.symm⟩
  | unterminated => simp [Scan.shift, Scan.prepend]
  | malformed fault => simp [Scan.shift, Scan.prepend]

/-- Whether a text by itself is read to one node, and if that is a literal, to its own symbols with the
    escaped dollar signs replaced. -/
def IsPart (part : Text) (node : Node) : Prop :=
  parse part = .ok [node] ∧ ∀ text, node = .literal text → text = part.unescapeDollars

/-- Whether a text falls into parts that are read to the nodes of a template. -/
def HasParts (text : Text) (template : Template) : Prop :=
  ∃ parts : List Text, parts.flatten = text ∧ [] ∉ parts ∧ List.Forall₂ IsPart parts template

/-- Whether the symbols in `front` are read as the symbol `c`, before any beginning of `rest`: they are passed as one
    piece, and they are `c` once escapes are replaced. -/
structure Carries (front : Text) (c : Symbol) (rest : Text) : Prop where
  passed : ∀ more back, rest = more ++ back → ∃ piece, (∀ template, consPiece piece template = consSymbol c template) ∧
    Plain.scan (Plain.attempt maxNesting) false 0 (front ++ more) 0 =
      (Plain.scan (Plain.attempt maxNesting) false 0 more (0 + front.length)).prepend [piece]
  replaced : ∀ more back, rest = more ++ back → (front ++ more).unescapeDollars = c :: more.unescapeDollars
  nonempty : front ≠ []

theorem Carries.parse_eq {front more back : Text} {c : Symbol} (carries : Carries front c (more ++ back))
    {template : Template}
    (read : parse more = .ok template) : parse (front ++ more) = .ok (consSymbol c template) := by
  obtain ⟨piece, joins, passed⟩ := carries.passed more back rfl
  exact (parse_append_iff front passed).2 ⟨template, read, (joins template).symm⟩

theorem Carries.isPart {front more back : Text} {c : Symbol} (carries : Carries front c (more ++ back))
    {text : Text}
    (read : parse (front ++ more) = .ok [.literal (c :: text)]) (same : text = more.unescapeDollars) :
    IsPart (front ++ more) (.literal (c :: text)) := by
  refine ⟨read, ?_⟩
  rintro _ ⟨rfl⟩
  rw [carries.replaced more back rfl, same]

/-- A symbol joins the first part if that is a literal, and is a part of its own otherwise. -/
theorem HasParts.carry {front rest : Text} {c : Symbol} {template : Template} (carries : Carries front c rest)
    (hasParts : HasParts rest template) : HasParts (front ++ rest) (consSymbol c template) := by
  obtain ⟨parts, rfl, nonempty, same⟩ := hasParts
  have alone : IsPart front (.literal [c]) := by
    have read : parse (front ++ []) = .ok (consSymbol c []) := Carries.parse_eq carries rfl
    have part := Carries.isPart carries read rfl
    rwa [List.append_nil] at part
  have separate : HasParts (front ++ parts.flatten) (.literal [c] :: template) :=
    ⟨front :: parts, rfl, by simp [nonempty, Ne.symm carries.nonempty], .cons alone same⟩
  cases same with
  | nil => exact separate
  | @cons part node parts rest own others =>
    cases node with
    | expression name operator => exact separate
    | default name trigger body => exact separate
    | literal text =>
      have read := Carries.parse_eq carries own.1
      exact ⟨(front ++ part) :: parts, by simp, by simp at nonempty ⊢; simp [nonempty, carries.nonempty],
        .cons (Carries.isPart carries read (own.2 text rfl)) others⟩

/-- An expression that is found is a part. -/
theorem HasParts.found {rest : Text} {node : Node} {size : Nat} {starts : List Nat} {template : Template}
    (found : Plain.attempt maxNesting 0 rest = .found node size starts)
    (hasParts : HasParts (rest.drop size) template) :
    HasParts (.char '$' :: rest) (node :: template) := by
  obtain ⟨parts, flat, nonempty, same⟩ := hasParts
  have fits := Plain.attempt_fits maxNesting found
  have own := Plain.attempt_take found
  have passed : Plain.scan (Plain.attempt maxNesting) false 0 (Symbol.char '$' :: rest.take size ++ []) 0 =
      (Plain.scan (Plain.attempt maxNesting) false 0 [] (0 + (Symbol.char '$' :: rest.take size).length)).prepend
        [.expression node (size + 1) starts] := by
    rw [List.append_nil, Plain.scan_found own (Plain.attempt_fits maxNesting own), length_front 0 (.char '$') fits]
    simp
  have alone := (parse_append_iff _ passed).2 ⟨[], rfl, rfl⟩
  rw [List.append_nil] at alone
  refine ⟨(.char '$' :: rest.take size) :: parts, by simp [flat], by simp [nonempty], .cons ⟨alone, ?_⟩ same⟩
  rintro text rfl
  exact absurd rfl ((Plain.canonical_of_found false found).2 text)

theorem carries_escape (rest : Text) : Carries [.char '\\', .char '$'] (.char '$') rest where
  passed more back _ := ⟨.escapedDollar, fun _ => rfl, Plain.scan_escape more⟩
  replaced more back _ := Text.unescapeDollars_escape more
  nonempty := by simp

theorem carries_symbol {s : Symbol} {rest : Text} (bare : s = .char '\\' → rest.head? ≠ some (.char '$'))
    (other : s ≠ .char '$') :
    Carries [s] s rest := by
  have unescaped : ∀ more back, rest = more ++ back → s = .char '\\' → more.head? ≠ some (.char '$') := by
    rintro more back rfl same
    cases more with
    | nil => simp
    | cons t more => simpa using bare same
  exact {
    passed := fun more back split => ⟨.symbol s, fun _ => rfl, Plain.scan_symbol (fun _ => rfl) (unescaped more back split) other⟩
    replaced := fun more back split => Text.unescapeDollars_symbol (unescaped more back split)
    nonempty := by simp }

theorem carries_dollar {rest : Text}
    (text : Plain.attempt maxNesting 0 rest = .kept ∨ Plain.attempt maxNesting 0 rest = .unterminated) :
    Carries [.char '$'] (.char '$') rest where
  passed := by
    rintro more back rfl
    refine ⟨.symbol (.char '$'), fun _ => rfl, ?_⟩
    rcases Plain.attempt_cut text with kept | unterminated
    · exact Plain.scan_kept kept
    · exact Plain.scan_given_up unterminated
  replaced more back _ := Text.unescapeDollars_symbol fun same => by cases same
  nonempty := by simp

/-- Every text that is read falls into parts, one for each node. -/
theorem hasParts_of_parse {text : Text} {template : Template} (read : parse text = .ok template) :
    HasParts text template := by
  induction text using scanInduction false generalizing template with
  | ended =>
    cases read
    exact ⟨[], rfl, by simp, .nil⟩
  | closing rest inside => cases inside
  | escape rest ih =>
    obtain ⟨behind, later, rfl⟩ := (parse_append_iff [.char '\\', .char '$'] (Plain.scan_escape rest)).1 read
    exact (ih later).carry (carries_escape rest)
  | dollar rest ih =>
    rcases Plain.scan_dollar (Plain.attempt_fits maxNesting) false 0 rest with
      ⟨node, size, starts, found, fits, scanned⟩ | ⟨text, scanned⟩ | ⟨-, inside, -⟩ | ⟨fault, -, scanned⟩
    · rw [length_front 0 (.char '$') fits] at scanned
      have whole : .char '$' :: rest.take size ++ rest.drop size = .char '$' :: rest := by simp
      rw [← whole] at read scanned
      obtain ⟨behind, later, rfl⟩ := (parse_append_iff _ scanned).1 read
      exact .found found (ih size later)
    · obtain ⟨behind, later, rfl⟩ := (parse_append_iff [.char '$'] scanned).1 read
      exact (ih 0 later).carry (carries_dollar (text.imp_right And.left))
    · cases inside
    · obtain ⟨pieces, stop, closed, -⟩ := parse_eq_ok_iff.1 read
      rw [Plain.scanAll, scanned] at closed
      cases closed
  | symbol s rest open_ bare other ih =>
    obtain ⟨behind, later, rfl⟩ := (parse_append_iff [s] (Plain.scan_symbol (fun _ => rfl) bare other)).1 read
    exact (ih later).carry (carries_symbol bare other)

theorem hasParts_of_parse_half_open :
    let text := Text.ofString "\\$$\x7bb" ++ Text.braced [.char 'a']
    let template : Template := [.literal (Text.ofString "$$\x7bb"), .expression [.char 'a'] .value]
    parse text = .ok template ∧ HasParts text template := by
  intro text template
  have read : parse text = .ok template := rfl
  exact ⟨read, hasParts_of_parse read⟩

end Template

end ShellTemplate
