import ShellTemplate.Proofs.Openings
import ShellTemplate.Template.Plain

/-!
# Scans one symbol at a time

What a scan does with the symbols in front of it has one equation for each case of `scanInduction`, and
what an attempt comes to is told by `Tried`, so that later proofs never unfold a scan or an attempt. A
body ends at a closing brace, and what an expression takes up lies inside the text.
-/

namespace ShellTemplate

/-- Induction along a scan: the text is over, a brace closes the body, a dollar sign is escaped, an
    expression is tried and any number of symbols may be passed with it, or a symbol stands for
    itself. -/
theorem scanInduction (inBody : Bool) {P : Text → Prop} (ended : P [])
    (closing : ∀ rest, inBody = true → P (.char '}' :: rest))
    (escape : ∀ rest, P rest → P (.char '\\' :: .char '$' :: rest))
    (dollar : ∀ rest, (∀ n, P (rest.drop n)) → P (.char '$' :: rest))
    (symbol : ∀ s rest, (s = .char '}' → inBody = false) → (s = .char '\\' → rest.head? ≠ some (.char '$')) →
      s ≠ .char '$' → P rest → P (s :: rest)) (text : Text) : P text := by
  induction text using Text.passInduction with
  | ended => exact ended
  | step s rest tails =>
    by_cases isDollar : s = .char '$'
    · exact isDollar ▸ dollar rest tails
    · by_cases closes : s = .char '}' ∧ inBody = true
      · exact closes.1 ▸ closing rest closes.2
      · by_cases escapes : s = .char '\\' ∧ rest.head? = some (.char '$')
        · obtain ⟨tail, rfl⟩ : ∃ tail, rest = .char '$' :: tail := List.head?_eq_some_iff.1 escapes.2
          exact escapes.1 ▸ escape tail (tails 1)
        · refine symbol s rest (fun same => ?_) (fun same here => escapes ⟨same, here⟩) isDollar (tails 0)
          simpa using fun inside => closes ⟨same, inside⟩

/-- A backslash before no `$` stands before none where a brace comes after the text. -/
theorem bare_append_closing {s : Symbol} {rest : Text} (bare : s = .char '\\' → rest.head? ≠ some (.char '$')) (tail : Text) :
    s = .char '\\' → (rest ++ .char '}' :: tail).head? ≠ some (.char '$') := by
  cases rest with
  | nil => simp
  | cons t rest => exact bare

namespace Scan

@[simp] theorem prepend_prepend (front back : List Piece) (scan : Scan) :
    (scan.prepend back).prepend front = scan.prepend (front ++ back) := by
  cases scan <;> simp [prepend]

@[simp] theorem prepend_nil (scan : Scan) : scan.prepend [] = scan := by
  cases scan <;> rfl

theorem prepend_eq_closed {front pieces : List Piece} {scan : Scan} {stop : Nat}
    (closed : scan.prepend front = .closed pieces stop) :
    ∃ more, scan = .closed more stop ∧ pieces = front ++ more := by
  cases scan with
  | closed more other =>
    cases closed
    exact ⟨more, rfl, rfl⟩
  | unterminated => cases closed
  | malformed fault => cases closed

@[simp] theorem prepend_eq_unterminated {front : List Piece} {scan : Scan} :
    scan.prepend front = .unterminated ↔ scan = .unterminated := by
  cases scan <;> simp [prepend]

@[simp] theorem prepend_eq_malformed {front : List Piece} {scan : Scan} {fault : Fault} :
    scan.prepend front = .malformed fault ↔ scan = .malformed fault := by
  cases scan <;> simp [prepend]

end Scan

/-- Whether a symbol stands for itself whatever comes after it, in a body and outside. -/
def Symbol.isInert (s : Symbol) : Bool :=
  s != .char '$' && s != .char '}' && s != .char '\\'

theorem Symbol.isInert_of_continuesName {s : Symbol} (continues : s.continuesName = true) :
    s.isInert = true := by
  have other : ∀ {c : Char}, (Symbol.char c).continuesName = false → s ≠ .char c := by
    rintro c stops rfl
    rw [stops] at continues
    cases continues
  have dollar : s ≠ .char '$' := other rfl
  have brace : s ≠ .char '}' := other rfl
  have backslash : s ≠ .char '\\' := other rfl
  simp [isInert, dollar, brace, backslash]

theorem Opening.isInert_of_mem_start {name : Text} (named : name.isName) (trigger : Trigger) {s : Symbol}
    (member : s ∈ Opening.start name trigger) : s.isInert = true := by
  simp only [Opening.start, List.cons_append, List.mem_cons, List.mem_append] at member
  rcases member with rfl | inside | sigil
  · rfl
  · exact Symbol.isInert_of_continuesName (Text.continuesName_of_isName named inside)
  · cases trigger <;> simp [Sigil.text] at sigil
    · exact sigil ▸ rfl
    · rcases sigil with rfl | rfl <;> rfl

/-- Whether a closing brace stands at the offset `stop` of a text that begins at `position`. -/
def ClosesAt (text : Text) (position stop : Nat) : Prop :=
  ∃ inner rest, text = inner ++ .char '}' :: rest ∧ stop = position + inner.length

theorem length_front (position : Nat) (s : Symbol) {rest : Text} {size : Nat} (fits : size ≤ rest.length) :
    position + 1 + size = position + (s :: rest.take size).length := by
  rw [List.length_cons, List.length_take, Nat.min_eq_left fits]
  omega

theorem ClosesAt.append (front : Text) {tail : Text} {position stop : Nat}
    (closes : ClosesAt tail (position + front.length) stop) : ClosesAt (front ++ tail) position stop := by
  obtain ⟨inner, rest, rfl, rfl⟩ := closes
  exact ⟨front ++ inner, rest, by rw [List.append_assoc], by rw [List.length_append, Nat.add_assoc]⟩

theorem ClosesAt.drop {s : Symbol} {rest : Text} {size position stop : Nat}
    (closes : ClosesAt (rest.drop size) (position + 1 + size) stop) (fits : size ≤ rest.length) :
    ClosesAt (s :: rest) position stop := by
  rw [length_front position s fits] at closes
  simpa using closes.append (s :: rest.take size)

/-- Whether a fault is that of the expression at its offset in a text that begins at `position`. -/
def FaultAt (text : Text) (position : Nat) (fault : Fault) : Prop :=
  ∃ front after size, text = front ++ .char '$' :: after ∧ fault.position = position + front.length ∧
    Opening.read after = .malformed fault.defect size ∧ fault.fragment = .char '$' :: after.take size

theorem FaultAt.append (front : Text) {tail : Text} {position : Nat} {fault : Fault}
    (blamed : FaultAt tail (position + front.length) fault) : FaultAt (front ++ tail) position fault := by
  obtain ⟨inner, after, size, rfl, place, opening, fragment⟩ := blamed
  refine ⟨front ++ inner, after, size, by rw [List.append_assoc], ?_, opening, fragment⟩
  rw [place, List.length_append, Nat.add_assoc]

theorem FaultAt.drop {s : Symbol} {rest : Text} {size position : Nat} {fault : Fault}
    (blamed : FaultAt (rest.drop size) (position + 1 + size) fault) (fits : size ≤ rest.length) :
    FaultAt (s :: rest) position fault := by
  rw [length_front position s fits] at blamed
  simpa using blamed.append (s :: rest.take size)

/-- In a text there is one fault at most at an offset. -/
theorem FaultAt.eq {text : Text} {position : Nat} {one other : Fault} (first : FaultAt text position one)
    (second : FaultAt text position other) (same : one.position = other.position) : one = other := by
  obtain ⟨front, after, size, rfl, place, opening, fragment⟩ := first
  obtain ⟨front', after', size', split, place', opening', fragment'⟩ := second
  obtain ⟨rfl, tails⟩ := List.append_inj split (by omega)
  cases tails
  rw [opening] at opening'
  cases one
  cases other
  simp_all

namespace Plain

section
variable {attempt : Nat → Text → Attempt} {inBody : Bool} {position : Nat}

theorem scan_skip {skip : Nat} {text : Text} (fits : skip ≤ text.length) (position : Nat) :
    scan attempt inBody skip text position = scan attempt inBody 0 (text.drop skip) (position + skip) := by
  induction skip generalizing text position with
  | zero => rfl
  | succ skip ih =>
    cases text with
    | nil => cases fits
    | cons s rest =>
      simp only [List.length_cons, Nat.add_le_add_iff_right] at fits
      rw [scan, ih fits, List.drop_succ_cons, Nat.add_assoc, Nat.add_comm 1]

@[simp] theorem scan_nil : scan attempt inBody 0 [] position = if inBody then .unterminated else .closed [] position := rfl

@[simp] theorem scan_closing (rest : Text) :
    scan attempt true 0 (.char '}' :: rest) position = .closed [] position := by
  simp [scan]

@[simp] theorem scan_escape (rest : Text) :
    scan attempt inBody 0 (.char '\\' :: .char '$' :: rest) position =
      (scan attempt inBody 0 rest (position + 2)).prepend [.escapedDollar] := by
  simp [scan]

theorem scan_symbol {s : Symbol} {rest : Text} (open_ : s = .char '}' → inBody = false)
    (bare : s = .char '\\' → rest.head? ≠ some (.char '$')) (other : s ≠ .char '$') :
    scan attempt inBody 0 (s :: rest) position = (scan attempt inBody 0 rest (position + 1)).prepend [.symbol s] := by
  rw [scan]
  have escape : ¬ (s = .char '\\' && rest.head? = some (.char '$')) = true := by simpa using bare
  rw [if_neg (Symbol.not_eq_and open_), if_neg escape, if_neg other]

theorem scan_inert {front : Text} (inert : ∀ s ∈ front, s.isInert = true) (text : Text) :
    scan attempt inBody 0 (front ++ text) position =
      (scan attempt inBody 0 text (position + front.length)).prepend (front.map .symbol) := by
  induction front generalizing position with
  | nil => simp
  | cons s front ih =>
    have own := inert s List.mem_cons_self
    simp only [Symbol.isInert, Bool.and_eq_true, bne_iff_ne] at own
    rw [List.cons_append, scan_symbol (fun same => absurd same own.1.2) (fun same => absurd same own.2) own.1.1,
      ih fun t member => inert t (List.mem_cons_of_mem _ member), Scan.prepend_prepend, List.length_cons,
      Nat.add_assoc, Nat.add_comm 1]
    rfl

theorem scan_kept {rest : Text} (kept : attempt position rest = .kept) :
    scan attempt inBody 0 (.char '$' :: rest) position =
      (scan attempt inBody 0 rest (position + 1)).prepend [.symbol (.char '$')] := by
  simp [scan, kept]

theorem scan_found {rest : Text} {node : Node} {size : Nat} {starts : List Nat}
    (found : attempt position rest = .found node size starts) (fits : size ≤ rest.length) :
    scan attempt inBody 0 (.char '$' :: rest) position =
      (scan attempt inBody 0 (rest.drop size) (position + 1 + size)).prepend [.expression node (size + 1) starts] := by
  rw [← scan_skip fits]
  simp [scan, found]

theorem scan_malformed {rest : Text} {fault : Fault} (malformed : attempt position rest = .malformed fault) :
    scan attempt inBody 0 (.char '$' :: rest) position = .malformed fault := by
  simp [scan, malformed]

theorem scan_unterminated {rest : Text} (unterminated : attempt position rest = .unterminated) :
    scan attempt true 0 (.char '$' :: rest) position = .unterminated := by
  simp [scan, unterminated]

theorem scan_given_up {rest : Text} (unterminated : attempt position rest = .unterminated) :
    scan attempt false 0 (.char '$' :: rest) position =
      (scan attempt false 0 rest (position + 1)).prepend [.symbol (.char '$')] := by
  simp [scan, unterminated]

/-- Whether what is found lies inside the text. -/
def Fits (attempt : Nat → Text → Attempt) : Prop :=
  ∀ ⦃position after node size starts⦄, attempt position after = .found node size starts → size ≤ after.length

/-- What becomes of a scan at a `$`: an expression is passed, the `$` is kept, or the scan is over. -/
theorem scan_dollar (fits : Fits attempt) (inBody : Bool) (position : Nat) (rest : Text) :
    (∃ node size starts, attempt position rest = .found node size starts ∧ size ≤ rest.length ∧
      scan attempt inBody 0 (.char '$' :: rest) position =
        (scan attempt inBody 0 (rest.drop size) (position + 1 + size)).prepend [.expression node (size + 1) starts]) ∨
    ((attempt position rest = .kept ∨ attempt position rest = .unterminated ∧ inBody = false) ∧
      scan attempt inBody 0 (.char '$' :: rest) position =
        (scan attempt inBody 0 rest (position + 1)).prepend [.symbol (.char '$')]) ∨
    (attempt position rest = .unterminated ∧ inBody = true ∧
      scan attempt inBody 0 (.char '$' :: rest) position = .unterminated) ∨
    ∃ fault, attempt position rest = .malformed fault ∧
      scan attempt inBody 0 (.char '$' :: rest) position = .malformed fault := by
  cases tried : attempt position rest with
  | found node size starts => exact .inl ⟨node, size, starts, rfl, fits tried, scan_found tried (fits tried)⟩
  | kept => exact .inr (.inl ⟨.inl rfl, scan_kept tried⟩)
  | unterminated =>
    cases inBody with
    | false => exact .inr (.inl ⟨.inr ⟨rfl, rfl⟩, scan_given_up tried⟩)
    | true => exact .inr (.inr (.inl ⟨rfl, rfl, scan_unterminated tried⟩))
  | malformed fault => exact .inr (.inr (.inr ⟨fault, rfl, scan_malformed tried⟩))

/-- A body ends at a closing brace. -/
theorem closesAt_of_closed (fits : Fits attempt) {text : Text} {pieces : List Piece} {stop : Nat}
    (closed : scan attempt true 0 text position = .closed pieces stop) : ClosesAt text position stop := by
  induction text using scanInduction true generalizing position pieces with
  | ended => cases closed
  | closing rest _ =>
    rw [scan_closing] at closed
    cases closed
    exact ⟨[], rest, rfl, rfl⟩
  | escape rest ih =>
    rw [scan_escape] at closed
    obtain ⟨more, tail, -⟩ := Scan.prepend_eq_closed closed
    exact (ih tail).append [_, _]
  | dollar rest ih =>
    rcases scan_dollar fits true position rest with
      ⟨node, size, starts, -, inside, scanned⟩ | ⟨-, scanned⟩ | ⟨-, -, scanned⟩ | ⟨fault, -, scanned⟩ <;>
      rw [scanned] at closed
    · obtain ⟨more, tail, -⟩ := Scan.prepend_eq_closed closed
      exact (ih size tail).drop inside
    · obtain ⟨more, tail, -⟩ := Scan.prepend_eq_closed closed
      exact (ih 0 tail).append [_]
    · cases closed
    · cases closed
  | symbol s rest open_ bare other ih =>
    rw [scan_symbol open_ bare other] at closed
    obtain ⟨more, tail, -⟩ := Scan.prepend_eq_closed closed
    exact (ih tail).append [_]

/-- Whether the faults of attempts are those of expressions in the text. -/
def Blames (attempt : Nat → Text → Attempt) : Prop :=
  ∀ ⦃position after fault⦄, attempt position after = .malformed fault → FaultAt (.char '$' :: after) position fault

/-- A fault is that of an expression in the text. -/
theorem faultAt_of_malformed (fits : Fits attempt) (blames : Blames attempt) {text : Text} {fault : Fault}
    (malformed : scan attempt inBody 0 text position = .malformed fault) : FaultAt text position fault := by
  induction text using scanInduction inBody generalizing position with
  | ended => cases inBody <;> cases malformed
  | closing rest inside =>
    subst inside
    rw [scan_closing] at malformed
    cases malformed
  | escape rest ih =>
    rw [scan_escape, Scan.prepend_eq_malformed] at malformed
    exact (ih malformed).append [_, _]
  | dollar rest ih =>
    rcases scan_dollar fits inBody position rest with
      ⟨node, size, starts, -, inside, scanned⟩ | ⟨-, scanned⟩ | ⟨-, -, scanned⟩ | ⟨other, tried, scanned⟩ <;>
      rw [scanned] at malformed
    · exact (ih size (Scan.prepend_eq_malformed.1 malformed)).drop inside
    · exact (ih 0 (Scan.prepend_eq_malformed.1 malformed)).append [_]
    · cases malformed
    · cases malformed
      exact blames tried
  | symbol s rest open_ bare other ih =>
    rw [scan_symbol open_ bare other, Scan.prepend_eq_malformed] at malformed
    exact (ih malformed).append [_]

end

@[simp] theorem attempt_zero (position : Nat) (after : Text) : attempt 0 position after = .kept := rfl

section
variable {levels position : Nat} {after : Text}

theorem attempt_absent (opening : Opening.read after = .absent) : attempt levels position after = .kept := by
  cases levels <;> simp [attempt, opening]

theorem attempt_cut_off (opening : Opening.read after = .unterminated) :
    attempt (levels + 1) position after = .unterminated := by
  simp [attempt, opening]

theorem attempt_malformed {defect : Defect} {size : Nat}
    (opening : Opening.read after = .malformed defect size) :
    attempt (levels + 1) position after = .malformed ⟨defect, .char '$' :: after.take size, position⟩ := by
  simp [attempt, opening]

theorem attempt_complete {name : Text} {operator : Operator} {size : Nat}
    (opening : Opening.read after = .complete name operator size) :
    attempt (levels + 1) position after = .found (.expression name operator) size [position] := by
  simp [attempt, opening]

section
variable {name : Text} {trigger : Trigger} {size : Nat} (opening : Opening.read after = .default name trigger size)
include opening

theorem attempt_closed {pieces : List Piece} {stop : Nat}
    (body : scan (attempt levels) true 0 (after.drop size) (position + 1 + size) = .closed pieces stop) :
    attempt (levels + 1) position after =
      .found (.default name trigger (Template.ofPieces pieces)) (stop - position)
        (position :: pieces.flatMap Piece.starts) := by
  simp [attempt, opening, body]

theorem attempt_unclosed
    (body : scan (attempt levels) true 0 (after.drop size) (position + 1 + size) = .unterminated) :
    attempt (levels + 1) position after = .unterminated := by
  simp [attempt, opening, body]

theorem attempt_faulty {fault : Fault}
    (body : scan (attempt levels) true 0 (after.drop size) (position + 1 + size) = .malformed fault) :
    attempt (levels + 1) position after = .malformed fault := by
  simp [attempt, opening, body]

end

end

/-- What an attempt comes to, by what follows the `$`, where `levels` defaults may be nested in a body: no expression,
    one that is cut off, has a fault or has no body, or a default, by what comes of its body. -/
inductive Tried (levels position : Nat) : (after : Text) → Attempt → Prop
  | absent {after : Text} (opening : Opening.read after = .absent) : Tried levels position after .kept
  | cut_off {after : Text} (opening : Opening.read after = .unterminated) :
      Tried levels position after .unterminated
  | malformed {after : Text} {defect : Defect} {size : Nat}
      (opening : Opening.read after = .malformed defect size) :
      Tried levels position after (.malformed ⟨defect, .char '$' :: after.take size, position⟩)
  | complete {after name : Text} {operator : Operator} {size : Nat}
      (opening : Opening.read after = .complete name operator size) :
      Tried levels position after (.found (.expression name operator) size [position])
  | closed {name body : Text} {trigger : Trigger} {pieces : List Piece} {stop : Nat} (named : name.isName)
      (scanned : scan (attempt levels) true 0 body (position + 1 + (Opening.start name trigger).length) = .closed pieces stop) :
      Tried levels position (Opening.start name trigger ++ body)
        (.found (.default name trigger (Template.ofPieces pieces)) (stop - position) (position :: pieces.flatMap Piece.starts))
  | unclosed {name body : Text} {trigger : Trigger} (named : name.isName)
      (scanned : scan (attempt levels) true 0 body (position + 1 + (Opening.start name trigger).length) = .unterminated) :
      Tried levels position (Opening.start name trigger ++ body) .unterminated
  | faulty {name body : Text} {trigger : Trigger} {fault : Fault} (named : name.isName)
      (scanned : scan (attempt levels) true 0 body (position + 1 + (Opening.start name trigger).length) = .malformed fault) :
      Tried levels position (Opening.start name trigger ++ body) (.malformed fault)

theorem attempt_tried (levels position : Nat) (after : Text) :
    Tried levels position after (attempt (levels + 1) position after) := by
  have shape := Opening.read_shape after
  cases opening : Opening.read after with
  | absent => exact attempt_absent opening ▸ .absent opening
  | unterminated => exact attempt_cut_off opening ▸ .cut_off opening
  | malformed defect size => exact attempt_malformed opening ▸ .malformed opening
  | complete name operator size => exact attempt_complete opening ▸ .complete opening
  | default name trigger size =>
    rw [opening] at shape
    obtain ⟨named, rfl, body, rfl⟩ := shape
    have drop : (Opening.start name trigger ++ body).drop (Opening.start name trigger).length = body := List.drop_left
    cases scanned : scan (attempt levels) true 0 body (position + 1 + (Opening.start name trigger).length) with
    | closed pieces stop => exact attempt_closed opening (by rwa [drop]) ▸ .closed named scanned
    | unterminated => exact attempt_unclosed opening (by rwa [drop]) ▸ .unclosed named scanned
    | malformed fault => exact attempt_faulty opening (by rwa [drop]) ▸ .faulty named scanned

/-- An attempt that comes to anything but text has a level left. -/
theorem tried_of_attempt {levels position : Nat} {after : Text} {result : Attempt}
    (attempted : attempt levels position after = result) (other : result ≠ .kept) :
    ∃ lower, levels = lower + 1 ∧ Tried lower position after result := by
  cases levels with
  | zero => exact absurd attempted.symm other
  | succ lower => exact ⟨lower, rfl, attempted ▸ attempt_tried lower position after⟩

/-- A `$` is text where no default may be nested or no expression begins. -/
theorem attempt_eq_kept_iff {levels position : Nat} {after : Text} :
    attempt levels position after = .kept ↔ levels = 0 ∨ Opening.read after = .absent := by
  constructor
  · intro kept
    cases levels with
    | zero => exact .inl rfl
    | succ lower =>
      have tried := attempt_tried lower position after
      rw [kept] at tried
      cases tried with
      | absent opening => exact .inr opening
  · rintro (rfl | opening)
    · rfl
    · exact attempt_absent opening

theorem size_le_of_complete {after name : Text} {operator : Operator} {size : Nat}
    (opening : Opening.read after = .complete name operator size) : size ≤ after.length := by
  have shape := Opening.read_shape after
  rw [opening] at shape
  rcases shape.2 with ⟨inner, rest, rfl, -, rfl⟩ | ⟨-, rest, rfl, -, -, rfl⟩
  · simp
  · simp

theorem attempt_fits (levels : Nat) : Fits (attempt levels) := by
  induction levels with
  | zero =>
    intro position after node size starts found
    cases found
  | succ levels ih =>
    intro position after node size starts found
    have tried := attempt_tried levels position after
    rw [found] at tried
    cases tried with
    | complete opening => exact size_le_of_complete opening
    | closed named scanned =>
      obtain ⟨inner, rest, rfl, rfl⟩ := closesAt_of_closed ih scanned
      simp
      omega

theorem attempt_blames (levels : Nat) : Blames (attempt levels) := by
  induction levels with
  | zero =>
    intro position after fault malformed
    cases malformed
  | succ levels ih =>
    intro position after fault malformed
    have tried := attempt_tried levels position after
    rw [malformed] at tried
    cases tried with
    | malformed opening => exact ⟨[], after, _, rfl, rfl, opening, rfl⟩
    | @faulty name body trigger _ named scanned =>
      have inside := faultAt_of_malformed (attempt_fits levels) ih scanned
      have drop : (Opening.start name trigger ++ body).drop (Opening.start name trigger).length = body := List.drop_left
      exact FaultAt.drop (by rwa [drop]) (by simp)

/-- A body with no closing brace is never over. -/
theorem scan_of_open {levels : Nat} {text : Text} (unclosed : .char '}' ∉ text) (position : Nat) :
    scan (attempt levels) true 0 text position = .unterminated := by
  cases scanned : scan (attempt levels) true 0 text position with
  | closed pieces stop =>
    obtain ⟨inner, rest, rfl, -⟩ := closesAt_of_closed (attempt_fits levels) scanned
    simp at unclosed
  | unterminated => rfl
  | malformed fault =>
    obtain ⟨front, after, size, rfl, -, opening, -⟩ :=
      faultAt_of_malformed (attempt_fits levels) (attempt_blames levels) scanned
    have shape := Opening.read_shape after
    rw [opening] at shape
    obtain ⟨inner, rest, rfl, -, -⟩ := shape
    simp at unclosed

theorem brace_mem_of_ended {levels position : Nat} {text : Text}
    (ended : scan (attempt levels) true 0 text position ≠ .unterminated) : .char '}' ∈ text :=
  Decidable.byContradiction fun unclosed => ended (scan_of_open unclosed position)

end Plain

end ShellTemplate
