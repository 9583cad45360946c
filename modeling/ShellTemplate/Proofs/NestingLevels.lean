import ShellTemplate.Proofs.PlainScan

/-!
# Bodies under more levels

Where one more default may be nested, a `$` that was text can begin an expression, and a body can
end elsewhere. It does so in a regular way (`shift_total`): a body that never ended ends nowhere
with more levels either, unless a fault shows there, and then the same one with every further level.
-/

namespace ShellTemplate

/-- What comes of a scan, its pieces left out. -/
def Scan.outline : Scan → Scan
  | .closed _ stop => .closed [] stop
  | .unterminated => .unterminated
  | .malformed fault => .malformed fault

namespace Scan

@[simp] theorem outline_prepend (pieces : List Piece) (scan : Scan) :
    (scan.prepend pieces).outline = scan.outline := by
  cases scan <;> rfl

@[simp] theorem outline_eq_unterminated {scan : Scan} :
    scan.outline = .unterminated ↔ scan = .unterminated := by
  cases scan <;> simp [outline]

@[simp] theorem outline_eq_malformed {scan : Scan} {fault : Fault} :
    scan.outline = .malformed fault ↔ scan = .malformed fault := by
  cases scan <;> simp [outline]

theorem outline_eq_closed {scan : Scan} {pieces : List Piece} {stop : Nat} :
    scan.outline = .closed pieces stop ↔ pieces = [] ∧ ∃ found, scan = .closed found stop := by
  cases scan <;> simp [outline, eq_comm]

end Scan

namespace Plain

/-- How the scan of a body ends where `levels` defaults may be nested. -/
def ending (levels : Nat) (text : Text) (position : Nat) : Scan :=
  (scan (attempt levels) true 0 text position).outline

section
variable {levels position : Nat} {rest after : Text}

@[simp] theorem ending_closing : ending levels (.char '}' :: rest) position = .closed [] position := by
  simp [ending, Scan.outline]

@[simp] theorem ending_escape : ending levels (.char '\\' :: .char '$' :: rest) position = ending levels rest (position + 2) := by
  simp [ending]

theorem ending_symbol {s : Symbol}
    (open_ : s ≠ .char '}') (bare : s = .char '\\' → rest.head? ≠ some (.char '$'))
    (other : s ≠ .char '$') : ending levels (s :: rest) position = ending levels rest (position + 1) := by
  simp [ending, scan_symbol (fun same => absurd same open_) bare other]

theorem ending_inert {front : Text} (inert : ∀ s ∈ front, s.isInert = true) (text : Text) :
    ending levels (front ++ text) position = ending levels text (position + front.length) := by
  simp [ending, scan_inert inert]

theorem ending_kept (kept : attempt levels position after = .kept) :
    ending levels (.char '$' :: after) position = ending levels after (position + 1) := by
  simp [ending, scan_kept kept]

theorem ending_unterminated (unterminated : attempt levels position after = .unterminated) :
    ending levels (.char '$' :: after) position = .unterminated := by
  simp [ending, scan_unterminated unterminated]

theorem ending_malformed {fault : Fault} (malformed : attempt levels position after = .malformed fault) :
    ending levels (.char '$' :: after) position = .malformed fault := by
  simp [ending, scan_malformed malformed]

theorem ending_found {node : Node} {size : Nat} {starts : List Nat}
    (found : attempt levels position after = .found node size starts) :
    ending levels (.char '$' :: after) position = ending levels (after.drop size) (position + 1 + size) := by
  simp [ending, scan_found found (attempt_fits levels found)]

theorem ending_of_open (unclosed : .char '}' ∉ after) : ending levels after position = .unterminated := by
  rw [ending, scan_of_open unclosed]
  rfl

/-- Where no default may be nested, a body ends at the first closing brace. -/
theorem ending_zero {inner : Text} (unclosed : .char '}' ∉ inner) (rest : Text) :
    ending 0 (inner ++ .char '}' :: rest) position = .closed [] (position + inner.length) := by
  induction inner using scanInduction true generalizing position with
  | ended => exact ending_closing
  | closing inner _ => simp at unclosed
  | escape inner ih =>
    rw [List.cons_append, List.cons_append, ending_escape, ih (by simpa using unclosed)]
    simp [Nat.add_comm, Nat.add_left_comm]
  | dollar inner ih =>
    have tail := @ih 0 (position + 1) (by simpa using unclosed)
    rw [List.drop_zero] at tail
    rw [List.cons_append, ending_kept (attempt_zero _ _), tail]
    simp [Nat.add_comm, Nat.add_left_comm]
  | symbol s inner open_ bare other ih =>
    simp only [List.mem_cons, not_or] at unclosed
    rw [List.cons_append, ending_symbol (Ne.symm unclosed.1) (bare_append_closing bare rest) other, ih unclosed.2]
    simp [Nat.add_comm, Nat.add_left_comm]

/-- A body ends at a closing brace or is not closed. -/
theorem ending_closed_or (levels : Nat) (text : Text) (position : Nat) :
    (∃ inner rest, text = inner ++ .char '}' :: rest ∧ ending levels text position = .closed [] (position + inner.length)) ∨
      ∀ stop, ending levels text position ≠ .closed [] stop := by
  cases scanned : scan (attempt levels) true 0 text position with
  | closed pieces stop =>
    obtain ⟨inner, rest, split, rfl⟩ := closesAt_of_closed (attempt_fits levels) scanned
    exact .inl ⟨inner, rest, split, by rw [ending, scanned, Scan.outline]⟩
  | unterminated => exact .inr fun stop closed => by simp [ending, scanned, Scan.outline] at closed
  | malformed fault => exact .inr fun stop closed => by simp [ending, scanned, Scan.outline] at closed

end

theorem drop_closed (front inner rest : Text) :
    (front ++ (inner ++ .char '}' :: rest)).drop (front.length + inner.length + 1) = rest := by
  have split : front ++ (inner ++ .char '}' :: rest) = (front ++ inner ++ [.char '}']) ++ rest := by simp
  have size : front.length + inner.length + 1 = (front ++ inner ++ [Symbol.char '}']).length := by
    simp [Nat.add_assoc]
  rw [split, size, List.drop_left]

section
variable {levels position : Nat} {name body : Text} {trigger : Trigger} (named : name.isName)
include named

/-- The default at a `$` is passed if its body is closed. -/
theorem ending_default {inner rest : Text}
    (closed : ending levels (inner ++ .char '}' :: rest) (position + 1 + (Opening.start name trigger).length) =
      .closed [] (position + 1 + (Opening.start name trigger).length + inner.length)) :
    ending (levels + 1) (.char '$' :: (Opening.start name trigger ++ (inner ++ .char '}' :: rest))) position =
      ending (levels + 1) rest (position + 1 + (Opening.start name trigger).length + inner.length + 1) := by
  obtain ⟨-, pieces, scanned⟩ := Scan.outline_eq_closed.1 closed
  have opening := Opening.read_start named trigger (inner ++ .char '}' :: rest)
  rw [ending_found (attempt_closed opening (by rwa [List.drop_left]))]
  have size : position + 1 + (Opening.start name trigger).length + inner.length - position =
      (Opening.start name trigger).length + inner.length + 1 := by omega
  rw [size, drop_closed]
  simp only [Nat.add_assoc]

/-- The default at a `$` is the end of a scan if its body is not closed. -/
theorem ending_default_of_open {result : Scan}
    (scanned : ending levels body (position + 1 + (Opening.start name trigger).length) = result)
    (unclosed : ∀ stop, result ≠ .closed [] stop) :
    ending (levels + 1) (.char '$' :: (Opening.start name trigger ++ body)) position = result := by
  have opening := Opening.read_start named trigger body
  subst scanned
  cases scanned : scan (attempt levels) true 0 body (position + 1 + (Opening.start name trigger).length) with
  | closed pieces stop =>
    rw [ending, scanned] at unclosed
    exact absurd rfl (unclosed stop)
  | unterminated => rw [ending_unterminated (attempt_unclosed opening (by rwa [List.drop_left])), ending, scanned, Scan.outline]
  | malformed fault => rw [ending_malformed (attempt_faulty opening (by rwa [List.drop_left])), ending, scanned, Scan.outline]

/-- Where a `$` is text, so is the beginning of a default. -/
theorem ending_text_default (kept : attempt levels position (Opening.start name trigger ++ body) = .kept) :
    ending levels (.char '$' :: (Opening.start name trigger ++ body)) position =
      ending levels body (position + 1 + (Opening.start name trigger).length) := by
  rw [ending_kept kept, ending_inert fun s member => Opening.isInert_of_mem_start named trigger member]

end

/-- How the end of a body changes where one more default may be nested. It stays the same with any number of levels
    more; a fault shows that is there with any number of levels more; the brace that closed the body belongs to an
    expression, and the body goes on after it; or a body that is not closed stays so. -/
inductive Shift (levels : Nat) (text : Text) (position : Nat) : Prop
  | steady (same : ∀ more ≥ levels, ending more text position = ending levels text position)
  | faulty (fault : Fault) (always : ∀ more > levels, ending more text position = .malformed fault)
  | resumed (inner rest : Text) (split : text = inner ++ .char '}' :: rest)
      (closed : ending levels text position = .closed [] (position + inner.length))
      (next : ending (levels + 1) text position = ending (levels + 1) rest (position + inner.length + 1))
  | stuck (unclosed : ∀ stop, ending levels text position ≠ .closed [] stop)
      (same : ending (levels + 1) text position = ending levels text position)

namespace Shift

/-- Symbols that are passed alike with any number of levels do not matter. -/
theorem append {levels position : Nat} {tail : Text} (front : Text)
    (passed : ∀ more ≥ levels, ending more (front ++ tail) position = ending more tail (position + front.length))
    (shift : Shift levels tail (position + front.length)) : Shift levels (front ++ tail) position := by
  have here := passed levels (Nat.le_refl _)
  have next := passed (levels + 1) (Nat.le_succ _)
  cases shift with
  | steady same =>
    refine .steady ?_
    intro more le
    rw [passed more le, same more le, here]
  | faulty fault always =>
    refine .faulty fault ?_
    intro more lt
    rw [passed more (Nat.le_of_lt lt), always more lt]
  | resumed inner rest split closed resumed =>
    refine .resumed (front ++ inner) rest (by rw [split, List.append_assoc]) ?_ ?_
    · rw [here, closed, List.length_append, Nat.add_assoc]
    · rw [next, resumed, List.length_append, Nat.add_assoc position]
  | stuck unclosed same =>
    refine .stuck (by rwa [here]) ?_
    rw [next, same, here]

/-- It is enough to look at the symbols `$` of a body. -/
theorem of_dollar {levels : Nat}
    (dollar : ∀ rest position, (∀ n position, Shift levels (rest.drop n) position) → Shift levels (.char '$' :: rest) position)
    (text : Text) (position : Nat) : Shift levels text position := by
  induction text using scanInduction true generalizing position with
  | ended => exact .steady fun more le => rfl
  | closing rest _ => exact .steady fun more le => by rw [ending_closing, ending_closing]
  | escape rest ih => exact append [_, _] (fun more le => ending_escape) (ih _)
  | dollar rest ih => exact dollar rest position ih
  | symbol s rest open_ bare other ih =>
    refine append [s] (fun more le => ending_symbol (fun same => ?_) bare other) (ih _)
    simpa using open_ same

/-- Where `$` was text, it can begin an expression with one level more. -/
theorem zero_dollar (rest : Text) (position : Nat) (later : ∀ n position, Shift 0 (rest.drop n) position) :
    Shift 0 (.char '$' :: rest) position := by
  have shape := Opening.read_shape rest
  have kept : ending 0 (.char '$' :: rest) position = ending 0 rest (position + 1) := ending_kept (attempt_zero _ _)
  cases opening : Opening.read rest with
  | absent => exact append [_] (fun more le => ending_kept (attempt_absent opening)) (later 0 _)
  | unterminated =>
    rw [opening] at shape
    have unclosed : .char '}' ∉ .char '$' :: rest := by simpa [Opening.Shape] using shape
    exact .steady fun more le => by rw [ending_of_open unclosed, ending_of_open unclosed]
  | malformed defect size =>
    refine .faulty ⟨defect, .char '$' :: rest.take size, position⟩ ?_
    intro more lt
    cases more with
    | zero => cases lt
    | succ more => exact ending_malformed (attempt_malformed opening)
  | complete name operator size =>
    rw [opening] at shape
    have found : ∀ {more}, ending (more + 1) (.char '$' :: rest) position =
        ending (more + 1) (rest.drop size) (position + 1 + size) :=
      ending_found (attempt_complete opening)
    obtain ⟨named, ⟨inner, back, rfl, unclosed, rfl⟩ | ⟨-, back, rfl, -, -, rfl⟩⟩ := shape
    · refine .resumed (.char '$' :: inner) back rfl ?_ ?_
      · rw [kept, ending_zero unclosed, List.length_cons, Nat.add_assoc, Nat.add_comm 1]
      · have size : inner.length + 1 = (inner ++ [Symbol.char '}']).length := by simp
        rw [found, List.append_cons, size, List.drop_left]
        simp [Nat.add_comm, Nat.add_left_comm]
    · have passed : ∀ more, ending more (.char '$' :: name ++ back) position =
          ending more back (position + (.char '$' :: name).length) := by
        intro more
        rw [List.length_cons, Nat.add_comm _ 1, ← Nat.add_assoc]
        cases more with
        | zero =>
          refine kept.trans (ending_inert (fun s member => ?_) back)
          exact Symbol.isInert_of_continuesName (Text.continuesName_of_isName named member)
        | succ more => rw [List.cons_append, found, List.drop_left]
      refine append (.char '$' :: name) (fun more le => passed more) ?_
      simpa using later name.length (position + (.char '$' :: name).length)
  | default name trigger size =>
    rw [opening] at shape
    obtain ⟨named, rfl, body, rfl⟩ := shape
    have text : ending 0 (.char '$' :: (Opening.start name trigger ++ body)) position =
        ending 0 body (position + 1 + (Opening.start name trigger).length) := ending_text_default named (attempt_zero _ _)
    rcases ending_closed_or 0 body (position + 1 + (Opening.start name trigger).length) with ⟨inner, rest, rfl, closed⟩ | unclosed
    · refine .resumed (.char '$' :: Opening.start name trigger ++ inner) rest (by simp) ?_ ?_
      · rw [text, closed]
        simp [Nat.add_assoc, Nat.add_comm, Nat.add_left_comm]
      · rw [ending_default named closed]
        simp [Nat.add_assoc, Nat.add_comm, Nat.add_left_comm]
    · refine .stuck (by rwa [text]) ?_
      rw [text, ending_default_of_open named rfl unclosed]

private theorem lift_le {levels more : Nat} (le : more ≥ levels + 1) : ∃ fewer ≥ levels, more = fewer + 1 :=
  ⟨more - 1, by omega, by omega⟩

/-- What the body of a default does with one more level decides what the body around it does. -/
theorem succ_default {levels position : Nat} {name body : Text} {trigger : Trigger} (named : name.isName)
    (inside : Shift levels body (position + 1 + (Opening.start name trigger).length))
    (later : ∀ n position, Shift (levels + 1) ((Opening.start name trigger ++ body).drop n) position) :
    Shift (levels + 1) (.char '$' :: (Opening.start name trigger ++ body)) position := by
  cases inside with
  | steady same =>
    rcases ending_closed_or levels body (position + 1 + (Opening.start name trigger).length) with
      ⟨inner, back, rfl, closed⟩ | unclosed
    · have whole : Shift (levels + 1) (.char '$' :: Opening.start name trigger ++ inner ++ [.char '}'] ++ back) position := by
        refine append _ (fun more le => ?_) ?_
        · obtain ⟨fewer, few, rfl⟩ := lift_le le
          have passed := ending_default named ((same fewer few).trans closed)
          simpa [Nat.add_assoc, Nat.add_comm, Nat.add_left_comm] using passed
        · have after := later ((Opening.start name trigger).length + inner.length + 1)
            (position + (Symbol.char '$' :: Opening.start name trigger ++ inner ++ [Symbol.char '}']).length)
          rwa [drop_closed] at after
      simpa using whole
    · have always : ∀ more ≥ levels + 1, ending more (.char '$' :: (Opening.start name trigger ++ body)) position =
          ending levels body (position + 1 + (Opening.start name trigger).length) := by
        intro more le
        obtain ⟨fewer, few, rfl⟩ := lift_le le
        exact ending_default_of_open named (same fewer few) unclosed
      exact .steady fun more le => by rw [always more le, always _ (Nat.le_refl _)]
  | faulty fault always =>
    refine .faulty fault ?_
    intro more lt
    obtain ⟨fewer, few, rfl⟩ := lift_le (Nat.le_of_lt lt)
    exact ending_default_of_open named (always fewer (by omega)) (by simp)
  | resumed inner back split closed next =>
    -- From the brace on, this body with one level more does what the body around it does now.
    subst split
    have here := ending_default named closed
    rcases ending_closed_or (levels + 1) back (position + 1 + (Opening.start name trigger).length + inner.length + 1) with
      ⟨inner', rest, rfl, again⟩ | unclosed
    · refine .resumed (.char '$' :: Opening.start name trigger ++ inner ++ .char '}' :: inner') rest (by simp) ?_ ?_
      · rw [here, again]
        simp [Nat.add_assoc, Nat.add_comm, Nat.add_left_comm]
      · have further : ending (levels + 1) (inner ++ .char '}' :: inner' ++ .char '}' :: rest)
              (position + 1 + (Opening.start name trigger).length) =
            .closed [] (position + 1 + (Opening.start name trigger).length + (inner ++ .char '}' :: inner').length) := by
          rw [List.append_assoc, List.cons_append, next, again]
          simp [Nat.add_assoc, Nat.add_comm, Nat.add_left_comm]
        have passed := ending_default named further
        simpa [Nat.add_assoc, Nat.add_comm, Nat.add_left_comm] using passed
    · refine .stuck (by rwa [here]) ?_
      rw [ending_default_of_open named next unclosed, here]
  | stuck unclosed same =>
    have here := ending_default_of_open named rfl unclosed
    refine .stuck (by rwa [here]) ?_
    rw [ending_default_of_open named same unclosed, here]

theorem succ_dollar {levels : Nat} (inside : ∀ text position, Shift levels text position) (rest : Text)
    (position : Nat)
    (later : ∀ n position, Shift (levels + 1) (rest.drop n) position) :
    Shift (levels + 1) (.char '$' :: rest) position := by
  have shape := Opening.read_shape rest
  cases opening : Opening.read rest with
  | absent => exact append [_] (fun more le => ending_kept (attempt_absent opening)) (later 0 _)
  | unterminated =>
    rw [opening] at shape
    have unclosed : .char '}' ∉ .char '$' :: rest := by simpa [Opening.Shape] using shape
    exact .steady fun more le => by rw [ending_of_open unclosed, ending_of_open unclosed]
  | malformed defect size =>
    refine .faulty ⟨defect, .char '$' :: rest.take size, position⟩ ?_
    intro more lt
    obtain ⟨fewer, -, rfl⟩ := lift_le (Nat.le_of_lt lt)
    exact ending_malformed (attempt_malformed opening)
  | complete name operator size =>
    have fits : size ≤ rest.length := size_le_of_complete opening
    have front : position + 1 + size = position + (.char '$' :: rest.take size).length := length_front position _ fits
    have whole : Shift (levels + 1) (.char '$' :: rest.take size ++ rest.drop size) position := by
      refine append _ (fun more le => ?_) (front ▸ later size _)
      obtain ⟨fewer, -, rfl⟩ := lift_le le
      rw [List.cons_append, List.take_append_drop, ending_found (attempt_complete opening), front]
    simpa using whole
  | default name trigger size =>
    rw [opening] at shape
    obtain ⟨named, rfl, body, rfl⟩ := shape
    exact succ_default named (inside body _) later

end Shift

/-- One more level changes the end of every body in one of these ways. -/
theorem shift_total (levels : Nat) (text : Text) (position : Nat) : Shift levels text position := by
  induction levels generalizing text position with
  | zero => exact Shift.of_dollar Shift.zero_dollar text position
  | succ levels ih => exact Shift.of_dollar (Shift.succ_dollar ih) text position

/-- A body that never ends does not end with more levels, unless in a fault that stays. -/
theorem ending_of_unterminated {few many : Nat} {text : Text} {position : Nat} (more : few ≤ many)
    (unterminated : ending few text position = .unterminated) :
    ending many text position = .unterminated ∨ ∃ fault, ∀ further ≥ many, ending further text position = .malformed fault := by
  induction more with
  | refl => exact .inl unterminated
  | @step middle more ih =>
    rcases ih with still | ⟨fault, always⟩
    · cases shift_total middle text position with
      | steady same => exact .inl ((same _ (Nat.le_succ _)).trans still)
      | faulty fault always => exact .inr ⟨fault, fun further le => always further le⟩
      | resumed inner rest split closed next =>
        rw [still] at closed
        cases closed
      | stuck unclosed same => exact .inl (same.trans still)
    · exact .inr ⟨fault, fun further le => always further (Nat.le_of_succ_le le)⟩

/-- What an expression that never ends is where more defaults may be nested. Its `$` then begins no
    expression, and if it is taken for text, the body goes on to no closing brace. -/
theorem attempt_of_unterminated {few many position : Nat} {after : Text} (more : few ≤ many)
    (unterminated : attempt few position after = .unterminated) :
    (attempt many position after = .unterminated ∧ ∀ pieces stop, ending many after (position + 1) ≠ .closed pieces stop) ∨
      ∃ fault, attempt many position after = .malformed fault ∧ ending many after (position + 1) = .malformed fault := by
  obtain ⟨few, rfl, tried⟩ := tried_of_attempt unterminated (by simp)
  obtain ⟨many, rfl⟩ : ∃ lower, many = lower + 1 := ⟨many - 1, by omega⟩
  cases tried with
  | cut_off opening =>
    have shape := Opening.read_shape after
    rw [opening] at shape
    refine .inl ⟨attempt_cut_off opening, fun pieces stop closed => ?_⟩
    rw [ending_of_open shape] at closed
    cases closed
  | @unclosed name body trigger named scanned =>
    have opening := Opening.read_start named trigger body
    have drop : (Opening.start name trigger ++ body).drop (Opening.start name trigger).length = body := List.drop_left
    have never : ending few body (position + 1 + (Opening.start name trigger).length) = .unterminated :=
      Scan.outline_eq_unterminated.2 scanned
    have around : ∀ {levels}, ending levels (Opening.start name trigger ++ body) (position + 1) =
        ending levels body (position + 1 + (Opening.start name trigger).length) :=
      ending_inert (fun s member => Opening.isInert_of_mem_start named trigger member) body
    rcases ending_of_unterminated (by omega : few ≤ many) never with still | ⟨fault, always⟩
    · refine .inl ⟨?_, fun pieces stop closed => ?_⟩
      · exact attempt_unclosed opening (by rw [drop]; exact Scan.outline_eq_unterminated.1 still)
      · rw [around] at closed
        rcases ending_of_unterminated (by omega : few ≤ many + 1) never with still | ⟨fault, always⟩
        · rw [still] at closed
          cases closed
        · rw [always _ (Nat.le_refl _)] at closed
          cases closed
    · refine .inr ⟨fault, ?_, ?_⟩
      · exact attempt_faulty opening (by rw [drop]; exact Scan.outline_eq_malformed.1 (always many (Nat.le_refl _)))
      · rw [around]
        exact always _ (Nat.le_succ _)

/-- Whether there are more levels than a text can use up, as every default has a `=`. -/
def Shallow (levels : Nat) (text : Text) : Prop :=
  text.count (.char '=') < levels

theorem Shallow.of_append {levels : Nat} {front text : Text} (shallow : Shallow levels (front ++ text)) :
    Shallow levels text := by
  rw [Shallow, List.count_append] at shallow
  exact Nat.lt_of_le_of_lt (Nat.le_add_left _ _) shallow

theorem Shallow.tail {levels : Nat} {s : Symbol} {rest : Text} (shallow : Shallow levels (s :: rest)) :
    Shallow levels rest :=
  @Shallow.of_append levels [s] rest shallow

theorem Shallow.body {levels : Nat} {name body : Text} {trigger : Trigger}
    (shallow : Shallow (levels + 1) (Opening.start name trigger ++ body)) : Shallow levels body := by
  have sigil : 0 < (Opening.start name trigger).count (.char '=') := by
    rw [List.count_pos_iff]
    cases trigger <;> simp [Opening.start, Sigil.text]
  rw [Shallow, List.count_append] at shallow
  rw [Shallow]
  omega

theorem Shallow.drop {levels : Nat} {text : Text} (shallow : Shallow levels text) (n : Nat) :
    Shallow levels (text.drop n) := by
  rw [← List.take_append_drop n text] at shallow
  exact shallow.of_append

/-- More levels than a text can use up make no difference to a scan, if they make none to attempts. -/
private theorem scan_of_attempts {few many : Nat} (inBody : Bool)
    (same : ∀ {position after}, Shallow few after → attempt many position after = attempt few position after)
    {text : Text} (shallow : Shallow few text) (position : Nat) :
    scan (attempt many) inBody 0 text position = scan (attempt few) inBody 0 text position := by
  induction text using scanInduction inBody generalizing position with
  | ended => rfl
  | closing rest inside =>
    subst inside
    rw [scan_closing, scan_closing]
  | escape rest ih => rw [scan_escape, scan_escape, ih shallow.tail.tail]
  | dollar rest ih =>
    have here := @same position rest shallow.tail
    rcases scan_dollar (attempt_fits few) inBody position rest with
      ⟨node, size, starts, found, fits, scanned⟩ | ⟨kept | ⟨unterminated, outside⟩, scanned⟩ |
        ⟨unterminated, inside, scanned⟩ | ⟨fault, malformed, scanned⟩
    · rw [scanned, scan_found (here.trans found) fits, ih size (shallow.tail.drop size)]
    · have rest_same := ih 0 shallow.tail (position + 1)
      rw [List.drop_zero] at rest_same
      rw [scanned, scan_kept (here.trans kept), rest_same]
    · subst outside
      have rest_same := ih 0 shallow.tail (position + 1)
      rw [List.drop_zero] at rest_same
      rw [scanned, scan_given_up (here.trans unterminated), rest_same]
    · subst inside
      rw [scanned, scan_unterminated (here.trans unterminated)]
    · rw [scanned, scan_malformed (here.trans malformed)]
  | symbol s rest open_ bare other ih =>
    rw [scan_symbol open_ bare other, scan_symbol open_ bare other, ih shallow.tail]

/-- More levels than a text can use up make no difference to an attempt. -/
theorem attempt_of_shallow {few many position : Nat} {after : Text} (more : few ≤ many)
    (shallow : Shallow few after) :
    attempt many position after = attempt few position after := by
  induction few generalizing many position after with
  | zero => cases shallow
  | succ few ih =>
    obtain ⟨many, rfl⟩ : ∃ lower, many = lower + 1 := ⟨many - 1, by omega⟩
    have inside : ∀ {body : Text}, Shallow few body → ∀ position,
        scan (attempt many) true 0 body position = scan (attempt few) true 0 body position :=
      fun shallow => scan_of_attempts true (fun shallow => ih (Nat.le_of_succ_le_succ more) shallow) shallow
    have tried := attempt_tried few position after
    generalize attempt (few + 1) position after = result at tried
    cases tried with
    | absent opening => exact attempt_absent opening
    | cut_off opening => exact attempt_cut_off opening
    | malformed opening => exact attempt_malformed opening
    | complete opening => exact attempt_complete opening
    | closed named scanned =>
      exact attempt_closed (Opening.read_start named _ _) (by rw [List.drop_left, inside shallow.body, scanned])
    | unclosed named scanned =>
      exact attempt_unclosed (Opening.read_start named _ _) (by rw [List.drop_left, inside shallow.body, scanned])
    | faulty named scanned =>
      exact attempt_faulty (Opening.read_start named _ _) (by rw [List.drop_left, inside shallow.body, scanned])

theorem ending_of_shallow {few many : Nat} {text : Text} (more : few ≤ many) (shallow : Shallow few text)
    (position : Nat) :
    ending many text position = ending few text position := by
  rw [ending, ending, scan_of_attempts true (fun shallow => attempt_of_shallow more shallow) shallow]

/-- If there are levels enough, a body in which an expression never ends does not end either when its
    `$` is taken for text. -/
theorem ending_after_unterminated {levels position : Nat} {after : Text} (shallow : Shallow levels after)
    (unterminated : attempt levels position after = .unterminated) :
    ending levels after (position + 1) = .unterminated := by
  obtain ⟨lower, rfl, tried⟩ := tried_of_attempt unterminated (by simp)
  cases tried with
  | cut_off opening =>
    have shape := Opening.read_shape after
    rw [opening] at shape
    exact ending_of_open shape
  | unclosed named scanned =>
    rw [ending_inert (fun s member => Opening.isInert_of_mem_start named _ member),
      ending_of_shallow (Nat.le_succ lower) shallow.body]
    exact Scan.outline_eq_unterminated.2 scanned

end Plain

end ShellTemplate
