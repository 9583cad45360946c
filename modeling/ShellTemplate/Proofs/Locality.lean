import ShellTemplate.Proofs.PlainScan

/-!
# What a scan depends on

A scan depends on the text that it goes through and on nothing else: not on where the text stands
(`scan_shift`), and not on what comes after the brace that ends it, as for an expression in it (`attempt_swap`).
-/

namespace ShellTemplate

/-- A piece of a text that stands further on. -/
def Piece.shift (distance : Nat) : Piece → Piece
  | .symbol s => .symbol s
  | .escapedDollar => .escapedDollar
  | .expression node size starts => .expression node size (starts.map (· + distance))

/-- A fault in a text that stands further on. -/
def Fault.shift (distance : Nat) (fault : Fault) : Fault :=
  { fault with position := fault.position + distance }

/-- What comes of a `$` that stands further on. -/
def Attempt.shift (distance : Nat) : Attempt → Attempt
  | .found node size starts => .found node size (starts.map (· + distance))
  | .kept => .kept
  | .unterminated => .unterminated
  | .malformed fault => .malformed (fault.shift distance)

/-- What comes of the scan of a text that stands further on. -/
def Scan.shift (distance : Nat) : Scan → Scan
  | .closed pieces stop => .closed (pieces.map (Piece.shift distance)) (stop + distance)
  | .unterminated => .unterminated
  | .malformed fault => .malformed (fault.shift distance)

theorem Scan.shift_prepend (distance : Nat) (front : List Piece) (scan : Scan) :
    (scan.prepend front).shift distance = (scan.shift distance).prepend (front.map (Piece.shift distance)) := by
  cases scan <;> simp [prepend, shift]

theorem Template.ofPieces_shift (distance : Nat) (pieces : List Piece) :
    ofPieces (pieces.map (Piece.shift distance)) = ofPieces pieces := by
  induction pieces with
  | nil => rfl
  | cons piece pieces ih =>
    simp only [ofPieces, List.map_cons, List.foldr_cons] at ih ⊢
    rw [ih]
    cases piece <;> rfl

theorem Piece.starts_shift (distance : Nat) (pieces : List Piece) :
    (pieces.map (Piece.shift distance)).flatMap Piece.starts = (pieces.flatMap Piece.starts).map (· + distance) := by
  induction pieces with
  | nil => rfl
  | cons piece pieces ih =>
    rw [List.map_cons, List.flatMap_cons, ih, List.flatMap_cons, List.map_append]
    cases piece <;> rfl

namespace Plain

/-- A scan depends on its offset in nothing but the offsets that it gives, if attempts do. -/
private theorem scan_shift_of_attempt {levels distance : Nat} (inBody : Bool)
    (shifted : ∀ position after, attempt levels (position + distance) after = (attempt levels position after).shift distance)
    (text : Text) (position : Nat) :
    scan (attempt levels) inBody 0 text (position + distance) =
      (scan (attempt levels) inBody 0 text position).shift distance := by
  induction text using scanInduction inBody generalizing position with
  | ended => cases inBody <;> rfl
  | closing rest inside =>
    subst inside
    rw [scan_closing, scan_closing]
    rfl
  | escape rest ih =>
    rw [scan_escape, scan_escape, Nat.add_right_comm, ih, Scan.shift_prepend]
    rfl
  | dollar rest ih =>
    have here := shifted position rest
    rcases scan_dollar (attempt_fits levels) inBody position rest with
      ⟨node, size, starts, tried, fits, scanned⟩ | ⟨kept | ⟨unterminated, outside⟩, scanned⟩ |
        ⟨unterminated, inside, scanned⟩ | ⟨fault, malformed, scanned⟩
    · rw [tried] at here
      rw [scanned, scan_found here fits, Scan.shift_prepend, Nat.add_right_comm position, Nat.add_right_comm (position + 1), ih]
      rfl
    · rw [kept] at here
      rw [scanned, scan_kept here, Scan.shift_prepend, Nat.add_right_comm, ← List.drop_zero (l := rest), ih]
      rfl
    · subst outside
      rw [unterminated] at here
      rw [scanned, scan_given_up here, Scan.shift_prepend, Nat.add_right_comm, ← List.drop_zero (l := rest), ih]
      rfl
    · subst inside
      rw [unterminated] at here
      rw [scanned, scan_unterminated here]
      rfl
    · rw [malformed] at here
      rw [scanned, scan_malformed here]
      rfl
  | symbol s rest open_ bare other ih =>
    rw [scan_symbol open_ bare other, scan_symbol open_ bare other, Nat.add_right_comm, ih, Scan.shift_prepend]
    rfl

theorem attempt_shift (levels distance position : Nat) (after : Text) :
    attempt levels (position + distance) after = (attempt levels position after).shift distance := by
  induction levels generalizing position after with
  | zero => rfl
  | succ levels ih =>
    have body := scan_shift_of_attempt true ih
    have tried := attempt_tried levels position after
    generalize attempt (levels + 1) position after = result at tried
    cases tried with
    | absent opening => exact attempt_absent opening
    | cut_off opening => exact attempt_cut_off opening
    | malformed opening => exact attempt_malformed opening
    | complete opening => exact attempt_complete opening
    | @closed name rest trigger pieces stop named scanned =>
      have later := body rest (position + 1 + (Opening.start name trigger).length)
      rw [scanned, Nat.add_right_comm, Nat.add_right_comm position] at later
      rw [attempt_closed (Opening.read_start named trigger rest) (by rw [List.drop_left]; exact later), Template.ofPieces_shift,
        Piece.starts_shift, Nat.add_sub_add_right]
      rfl
    | @unclosed name rest trigger named scanned =>
      have later := body rest (position + 1 + (Opening.start name trigger).length)
      rw [scanned, Nat.add_right_comm, Nat.add_right_comm position] at later
      exact attempt_unclosed (Opening.read_start named trigger rest) (by rw [List.drop_left]; exact later)
    | @faulty name rest trigger fault named scanned =>
      have later := body rest (position + 1 + (Opening.start name trigger).length)
      rw [scanned, Nat.add_right_comm, Nat.add_right_comm position] at later
      exact attempt_faulty (Opening.read_start named trigger rest) (by rw [List.drop_left]; exact later)

/-- A scan depends on its offset in nothing but the offsets that it gives. -/
theorem scan_shift (levels distance : Nat) (inBody : Bool) (text : Text) (position : Nat) :
    scan (attempt levels) inBody 0 text (position + distance) = (scan (attempt levels) inBody 0 text position).shift distance :=
  scan_shift_of_attempt inBody (attempt_shift levels distance) text position

end Plain

/-- Whether a scan is over before an offset, at a brace or with a fault. -/
def Scan.EndsBefore (offset : Nat) : Scan → Prop
  | .closed _ stop => stop < offset
  | .unterminated => False
  | .malformed fault => fault.position + fault.fragment.length ≤ offset

/-- Whether what comes of the `$` at `position` shows before an offset. -/
def Attempt.EndsBefore (position offset : Nat) : Attempt → Prop
  | .found _ size _ => position + 1 + size ≤ offset
  | .kept => True
  | .unterminated => False
  | .malformed fault => fault.position + fault.fragment.length ≤ offset

@[simp] theorem Scan.endsBefore_prepend {offset : Nat} {front : List Piece} {scan : Scan} :
    (scan.prepend front).EndsBefore offset ↔ scan.EndsBefore offset := by
  cases scan <;> rfl

theorem Opening.read_swap (inner one other : Text) :
    read (inner ++ .char '}' :: one) = read (inner ++ .char '}' :: other) := by
  have closed : .char '}' ∈ inner ++ [.char '}'] := by simp
  rw [List.append_cons inner _ one, List.append_cons inner _ other, read_append closed, read_append closed]

/-- A brace does not stand in the beginning of a default. -/
theorem Opening.split_start {name body inner rest : Text} {trigger : Trigger} (named : name.isName)
    (split : start name trigger ++ body = inner ++ .char '}' :: rest) :
    ∃ more, inner = start name trigger ++ more ∧ body = more ++ .char '}' :: rest := by
  rcases List.append_eq_append_iff.1 split with ⟨more, rfl, same⟩ | ⟨between, same, back⟩
  · exact ⟨more, rfl, same⟩
  · cases between with
    | nil => exact ⟨[], by simpa using same.symm, by simpa using back.symm⟩
    | cons s between =>
      cases back
      have member : .char '}' ∈ start name trigger := by simp [same]
      have inert := isInert_of_mem_start named trigger member
      cases inert

namespace Plain

theorem lt_of_endsBefore {levels position offset : Nat} {text : Text}
    (ends : (scan (attempt levels) true 0 text position).EndsBefore offset) : position < offset := by
  cases scanned : scan (attempt levels) true 0 text position with
  | closed pieces stop =>
    rw [scanned] at ends
    obtain ⟨inner, rest, -, rfl⟩ := closesAt_of_closed (attempt_fits levels) scanned
    exact Nat.lt_of_le_of_lt (Nat.le_add_right _ _) ends
  | unterminated =>
    rw [scanned] at ends
    cases ends
  | malformed fault =>
    rw [scanned] at ends
    obtain ⟨front, after, size, -, place, -, fragment⟩ :=
      faultAt_of_malformed (attempt_fits levels) (attempt_blames levels) scanned
    simp only [Scan.EndsBefore, place, fragment, List.length_cons] at ends
    omega

/-- What comes after the brace that ends a body does not matter, if it does not for attempts. -/
private theorem scan_swap_of_attempt {levels : Nat} {one other : Text}
    (swapped : ∀ {inner position},
      (attempt levels position (inner ++ .char '}' :: one)).EndsBefore position (position + inner.length + 2) →
      attempt levels position (inner ++ .char '}' :: other) = attempt levels position (inner ++ .char '}' :: one))
    {inner : Text} {position : Nat}
    (ends : (scan (attempt levels) true 0 (inner ++ .char '}' :: one) position).EndsBefore (position + inner.length + 1)) :
    scan (attempt levels) true 0 (inner ++ .char '}' :: other) position =
      scan (attempt levels) true 0 (inner ++ .char '}' :: one) position := by
  induction inner using scanInduction true generalizing position with
  | ended => rw [List.nil_append, List.nil_append, scan_closing, scan_closing]
  | closing inner _ => rw [List.cons_append, List.cons_append, scan_closing, scan_closing]
  | escape inner ih =>
    simp only [List.cons_append, scan_escape, Scan.endsBefore_prepend, List.length_cons] at ends ⊢
    rw [ih (by rwa [Nat.add_right_comm position 2, Nat.add_assoc position])]
  | dollar inner ih =>
    rw [List.cons_append, List.length_cons] at ends
    rw [List.cons_append, List.cons_append]
    rcases scan_dollar (attempt_fits levels) true position (inner ++ .char '}' :: one) with
      ⟨node, size, starts, tried, fits, scanned⟩ | ⟨kept | ⟨-, outside⟩, scanned⟩ | ⟨-, -, scanned⟩ | ⟨fault, tried, scanned⟩
    · rw [scanned, Scan.endsBefore_prepend] at ends
      have inside : size ≤ inner.length := by
        have le := lt_of_endsBefore ends
        omega
      have same := @swapped inner position (by rw [tried]; simp only [Attempt.EndsBefore]; omega)
      rw [tried] at same
      rw [List.drop_append_of_le_length inside] at ends scanned
      have further := @ih size (position + 1 + size) (by rw [List.length_drop]; rwa [show
        position + 1 + size + (inner.length - size) + 1 = position + (inner.length + 1) + 1 by omega])
      rw [scan_found same (attempt_fits levels same), List.drop_append_of_le_length inside, further, scanned]
    · rw [scanned, Scan.endsBefore_prepend] at ends
      have same := @swapped inner position (by rw [kept]; trivial)
      rw [kept] at same
      have further := @ih 0 (position + 1) (by rwa [Nat.add_right_comm position 1, Nat.add_assoc position])
      rw [List.drop_zero] at further
      rw [scan_kept same, further, scanned]
    · cases outside
    · rw [scanned] at ends
      cases ends
    · rw [scanned] at ends
      have same := @swapped inner position (by rw [tried]; exact ends)
      rw [tried] at same
      rw [scan_malformed same, scanned]
  | symbol s inner open_ bare plain ih =>
    simp only [List.cons_append, scan_symbol open_ (bare_append_closing bare _) plain, Scan.endsBefore_prepend, List.length_cons] at ends ⊢
    rw [ih (by rwa [Nat.add_right_comm position 1, Nat.add_assoc position])]

/-- What comes after a brace does not matter to an expression that is over by then. -/
theorem attempt_swap {levels : Nat} {inner one : Text} {position : Nat}
    (ends : (attempt levels position (inner ++ .char '}' :: one)).EndsBefore position (position + inner.length + 2))
    (other : Text) :
    attempt levels position (inner ++ .char '}' :: other) = attempt levels position (inner ++ .char '}' :: one) := by
  induction levels generalizing inner one other position with
  | zero => rfl
  | succ levels ih =>
    have same := Opening.read_swap inner other one
    have body : ∀ {inner one position other},
        (scan (attempt levels) true 0 (inner ++ .char '}' :: one) position).EndsBefore (position + inner.length + 1) →
        scan (attempt levels) true 0 (inner ++ .char '}' :: other) position =
          scan (attempt levels) true 0 (inner ++ .char '}' :: one) position :=
      fun ends => scan_swap_of_attempt (fun ends => ih ends _) ends
    have tried := attempt_tried levels position (inner ++ .char '}' :: one)
    generalize attempt (levels + 1) position (inner ++ .char '}' :: one) = result at tried ends ⊢
    generalize split : inner ++ .char '}' :: one = after at tried same
    cases tried with
    | absent opening => exact attempt_absent (same.trans opening)
    | cut_off opening => cases ends
    | @malformed _ defect size opening =>
      have shape := Opening.read_shape after
      rw [opening] at shape
      obtain ⟨front, rest, rfl, -, rfl⟩ := shape
      have inside : front.length + 1 ≤ inner.length + 1 := by
        simp only [Attempt.EndsBefore, List.length_cons, List.length_take, List.length_append] at ends
        omega
      have cut : ∀ rest, (inner ++ Symbol.char '}' :: rest).take (front.length + 1) =
          (inner ++ [Symbol.char '}']).take (front.length + 1) := by
        intro rest
        rw [List.append_cons, List.take_append_of_le_length (by simpa using inside)]
      rw [attempt_malformed (same.trans opening), ← split, cut other, cut one]
    | complete opening => exact attempt_complete (same.trans opening)
    | @closed name rest trigger pieces stop named scanned =>
      obtain ⟨more, rfl, rfl⟩ := Opening.split_start named split.symm
      simp only [Attempt.EndsBefore, List.length_append] at ends
      have again := @body more one (position + 1 + (Opening.start name trigger).length) other (by
        rw [scanned]
        simp only [Scan.EndsBefore]
        omega)
      rw [List.append_assoc]
      exact attempt_closed (Opening.read_start named trigger _) (by rw [List.drop_left, again, scanned])
    | unclosed named scanned => cases ends
    | @faulty name rest trigger fault named scanned =>
      obtain ⟨more, rfl, rfl⟩ := Opening.split_start named split.symm
      simp only [Attempt.EndsBefore, List.length_append] at ends
      have again := @body more one (position + 1 + (Opening.start name trigger).length) other (by
        rw [scanned]
        simp only [Scan.EndsBefore]
        omega)
      rw [List.append_assoc]
      exact attempt_faulty (Opening.read_start named trigger _) (by rw [List.drop_left, again, scanned])

/-- An expression that is found ends at a closing brace, or is a name without braces. -/
theorem found_shape {levels position : Nat} {after : Text} {node : Node} {size : Nat} {starts : List Nat}
    (found : attempt levels position after = .found node size starts) :
    (∃ inner rest, after = inner ++ .char '}' :: rest ∧ size = inner.length + 1) ∨
      ∃ name lower, levels = lower + 1 ∧ Opening.Bare name after size ∧ node = .expression name .value ∧ starts = [position] := by
  obtain ⟨lower, rfl, tried⟩ := tried_of_attempt found (by simp)
  cases tried with
  | @complete _ name operator _ opening =>
    have shape := Opening.read_shape after
    rw [opening] at shape
    rcases shape.2 with ⟨inner, rest, split, -, length⟩ | ⟨rfl, bare⟩
    · exact .inl ⟨inner, rest, split, length⟩
    · exact .inr ⟨name, lower, rfl, bare, rfl, rfl⟩
  | @closed name body trigger pieces stop named scanned =>
    obtain ⟨inner, rest, rfl, rfl⟩ := closesAt_of_closed (attempt_fits lower) scanned
    refine .inl ⟨Opening.start name trigger ++ inner, rest, by simp, ?_⟩
    rw [List.length_append]
    omega

/-- An expression that is found is what its own symbols denote. -/
theorem attempt_take {levels position : Nat} {after : Text} {node : Node} {size : Nat} {starts : List Nat}
    (found : attempt levels position after = .found node size starts) :
    attempt levels position (after.take size) = .found node size starts := by
  rcases found_shape found with ⟨inner, rest, rfl, rfl⟩ | ⟨name, lower, rfl, ⟨rest, rfl, named, -, rfl⟩, rfl, rfl⟩
  · have cut : (inner ++ .char '}' :: rest).take (inner.length + 1) = inner ++ [.char '}'] := by
      rw [List.take_append, List.take_of_length_le (by omega)]
      simp
    rw [cut, attempt_swap (by rw [found]; simp only [Attempt.EndsBefore]; omega) [], found]
  · have ends : Text.endsName [] := by simp [Text.endsName]
    have opening := Opening.read_name named ends
    rw [List.append_nil] at opening
    rw [List.take_left]
    exact attempt_complete opening

/-- An expression that is found is found whatever comes after it, if a name at the end is not gone on with. -/
theorem attempt_append_of_found {levels position : Nat} {after more : Text} {node : Node} {size : Nat} {starts : List Nat}
    (found : attempt levels position after = .found node size starts)
    (ends : ∀ s ∈ after.getLast?, s.continuesName = true → more.endsName) :
    attempt levels position (after ++ more) = .found node size starts := by
  rcases found_shape found with ⟨inner, rest, rfl, rfl⟩ | ⟨name, lower, rfl, ⟨rest, rfl, named, stops, rfl⟩, rfl, rfl⟩
  · have longer := attempt_swap (by rw [found]; simp only [Attempt.EndsBefore]; omega) (rest ++ more)
    rw [List.append_assoc, List.cons_append, longer, found]
  · have settled : (rest ++ more).endsName := by
      cases rest with
      | nil =>
        have nonempty : name ≠ [] := by
          rintro rfl
          cases named
        have last := List.getLast_mem nonempty
        exact ends _ (by simp [List.getLast?_eq_some_getLast nonempty]) (Text.continuesName_of_isName named last)
      | cons s rest => exact stops
    rw [List.append_assoc]
    exact attempt_complete (Opening.read_name named settled)

/-- A `$` that is text stays so whatever comes after it, but where that is what decides. -/
theorem attempt_append_of_kept {levels position : Nat} {after more : Text} (kept : attempt levels position after = .kept)
    (bare : after = [] → Opening.read more = .absent)
    (length : after = [.char '{', .char '#'] → Opening.lengthForm more = .absent) :
    attempt levels position (after ++ more) = .kept := by
  rw [attempt_eq_kept_iff] at kept ⊢
  exact kept.imp_right fun absent => Opening.read_append_of_absent absent bare length

/-- A `$` that is text stays so when the text after it is cut off. -/
theorem attempt_cut {levels position : Nat} {front back : Text}
    (text : attempt levels position (front ++ back) = .kept ∨ attempt levels position (front ++ back) = .unterminated) :
    attempt levels position front = .kept ∨ attempt levels position front = .unterminated := by
  cases tried : attempt levels position front with
  | kept => exact .inl rfl
  | unterminated => exact .inr rfl
  | found node size starts =>
    rcases found_shape tried with ⟨inner, rest, rfl, rfl⟩ | ⟨name, lower, rfl, ⟨rest, rfl, named, ends, rfl⟩, rfl, rfl⟩
    · have longer := attempt_swap (by rw [tried]; simp only [Attempt.EndsBefore]; omega) (rest ++ back)
      rw [List.append_assoc, List.cons_append, longer, tried] at text
      simp at text
    · obtain ⟨longer, size, opening⟩ := Opening.read_name_append named (rest ++ back)
      rw [List.append_assoc, attempt_complete opening] at text
      simp at text
  | malformed fault =>
    obtain ⟨before, after, size, split, place, opening, fragment⟩ := attempt_blames levels tried
    have shape := Opening.read_shape after
    rw [opening] at shape
    obtain ⟨inside, rest, rfl, -, rfl⟩ := shape
    have brace : ∃ inner, front = inner ++ .char '}' :: rest ∧ before.length + inside.length = inner.length := by
      cases before with
      | nil =>
        cases split
        exact ⟨inside, rfl, by simp⟩
      | cons s before =>
        cases split
        exact ⟨before ++ .char '$' :: inside, by simp, by simp; omega⟩
    obtain ⟨inner, rfl, length⟩ := brace
    have longer := attempt_swap (by rw [tried]; simp [Attempt.EndsBefore, place, fragment]; omega) (rest ++ back)
    rw [List.append_assoc, List.cons_append, longer, tried] at text
    simp at text

end Plain

end ShellTemplate
