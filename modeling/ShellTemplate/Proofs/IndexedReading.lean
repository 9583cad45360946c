import ShellTemplate.Proofs.BodyDepths
import ShellTemplate.Template.Indexed

/-!
# What reading by index comes to

Reading by index comes to what reading the symbols one after another comes to (`ScansAlike`), for as many steps as are left. So
it never looks up a symbol outside the text or searches for a brace that is not there, and it ends (`reads_without_breach`).
The scan goes on from where an expression ends; that this is behind its `$` and in the text (`Template.Advances`) is settled
before.
-/

namespace ShellTemplate

namespace Indexed

section
variable {text : Text} {index : Nat}

/-! ## Lookups and searches -/

theorem lt_length_of_drop {s : Symbol} {rest : Text} (here : text.drop index = s :: rest) : index < text.length := by
  have size := congrArg List.length here
  simp only [List.length_drop, List.length_cons] at size
  omega

theorem getElem?_of_drop {s : Symbol} {inner rest : Text} (split : text.drop index = inner ++ s :: rest) :
    text[index + inner.length]? = some s := by
  rw [← List.getElem?_drop, split, List.getElem?_append_right (Nat.le_refl _), Nat.sub_self, List.getElem?_cons_zero]

theorem symbolAt_of_drop {s : Symbol} {rest : Text} (here : text.drop index = s :: rest) : symbolAt text index = .ok s := by
  have found : text[index]? = some s := by rw [← List.head?_drop, here, List.head?_cons]
  rw [symbolAt, found]

theorem slice_add (text : Text) (start size : Nat) : slice text start (start + size) = (text.drop start).take size := by
  rw [slice, List.drop_take, Nat.add_sub_cancel_left]

theorem lastBrace?_eq_none_iff : lastBrace? text = none ↔ .char '}' ∉ text := by
  induction text with
  | nil => simp [lastBrace?]
  | cons s rest ih =>
    rw [lastBrace?, List.mem_cons, not_or, ← ih]
    cases lastBrace? rest with
    | some last => simp
    | none => simp [eq_comm]

theorem isBehindBraces_zero : isBehindBraces text 0 = true ↔ .char '}' ∉ text := by
  rw [← lastBrace?_eq_none_iff, isBehindBraces]
  cases lastBrace? text <;> simp

theorem isBehindBraces_succ (s : Symbol) (rest : Text) (index : Nat) :
    isBehindBraces (s :: rest) (index + 1) = isBehindBraces rest index := by
  rw [isBehindBraces, isBehindBraces, lastBrace?]
  cases lastBrace? rest with
  | some last => simp
  | none =>
    dsimp only
    split <;> simp

/-- An index is behind the last closing brace if none stands from it on. -/
theorem isBehindBraces_iff : isBehindBraces text index = true ↔ .char '}' ∉ text.drop index := by
  induction index generalizing text with
  | zero => exact isBehindBraces_zero
  | succ index ih =>
    cases text with
    | nil => simp [isBehindBraces, lastBrace?]
    | cons s rest => rw [isBehindBraces_succ, List.drop_succ_cons, ih]

theorem findIdx?_closing (text : Text) :
    text.findIdx? (· = .char '}') = (text.cut? [.char '}']).map fun parts => parts.1.length := by
  induction text with
  | nil => rfl
  | cons s rest ih =>
    rw [List.findIdx?_cons, Text.cut?_cons_symbol, ih]
    by_cases closes : s = .char '}'
    · simp [closes]
    · simp [closes, Function.comp_def]

/-- A closing brace that is searched for is always found. -/
theorem closingBrace_eq (text : Text) (index : Nat) :
    closingBrace text index = .ok ((Text.cut? (text.drop index) [.char '}']).map fun parts => index + parts.1.length) := by
  rw [closingBrace, findIdx?_closing]
  cases cut : Text.cut? (text.drop index) [.char '}'] with
  | none => rw [if_pos (isBehindBraces_iff.2 (Text.cut?_eq_none_iff.1 cut)), Option.map_none]
  | some parts =>
    obtain ⟨before, after⟩ := parts
    have member : .char '}' ∈ text.drop index := by
      rw [(Text.cut?_eq_some_iff.1 cut).1]
      simp
    rw [if_neg (by simpa [isBehindBraces_iff] using member)]
    rfl

end

/-! ## Expressions -/

/-- What the symbols `after` the `$` at an index begin. -/
def Beginning.ofOpening (start : Nat) (after : Text) : Opening → Beginning
  | .absent => .absent
  | .unterminated => .unterminated
  | .malformed defect size => .malformed ⟨defect, .char '$' :: after.take size, start⟩
  | .complete name operator size => .complete name operator (start + 1 + size)
  | .default name trigger size => .default name trigger (start + 1 + size)

section
variable {text after : Text} {start : Nat} (dollar : text.drop start = .char '$' :: after)
include dollar

theorem drop_after (size : Nat) : text.drop (start + 1 + size) = after.drop size := by
  rw [← List.drop_drop, ← List.drop_drop, dollar, List.drop_succ_cons, List.drop_zero]

theorem length_eq : text.length = start + 1 + after.length := by
  have size := congrArg List.length dollar
  simp only [List.length_drop, List.length_cons] at size
  omega

/-- The symbols of an expression with its `$`. -/
theorem slice_dollar (size : Nat) : slice text start (start + 1 + size) = .char '$' :: after.take size := by
  rw [Nat.add_assoc, slice_add, dollar, Nat.add_comm 1, List.take_succ_cons]

theorem closedAt_eq (name : Text) (operator : Operator) (size : Nat) :
    closedAt text name operator (start + 1 + size) =
      .ok (.ofOpening start after
        (match after.drop size with
        | [] => .unterminated
        | .char '}' :: _ => .complete name operator (size + 1)
        | _ => .absent)) := by
  have here := drop_after dollar size
  rw [closedAt]
  cases rest_eq : after.drop size with
  | nil => rw [if_pos (List.drop_eq_nil_iff.1 (here.trans rest_eq))]; rfl
  | cons s rest =>
    rw [rest_eq] at here
    rw [if_neg (Nat.not_le.2 (lt_length_of_drop here)), symbolAt_of_drop here]
    by_cases closes : s = .char '}'
    · subst closes
      rfl
    · split <;> simp_all [Beginning.ofOpening, bind, Except.bind]

theorem afterSigil_eq (name : Text) (sigil : Sigil) (size : Nat) :
    afterSigil text start name (start + 1 + size) sigil =
      .ok (.ofOpening start after (Opening.ofSigil name sigil size (after.drop size))) := by
  cases sigil with
  | changeCase letters extent => exact closedAt_eq dollar name (.changeCase letters extent) size
  | default trigger => rfl
  | payload form =>
    rw [afterSigil, Opening.ofSigil, closingBrace_eq, drop_after dollar]
    cases cut : Text.cut? (after.drop size) [.char '}'] with
    | none => rfl
    | some parts =>
      obtain ⟨payload, rest⟩ := parts
      have inside : slice text (start + 1 + size) (start + 1 + size + payload.length) = payload := by
        rw [slice_add, drop_after dollar, (Text.cut?_eq_some_iff.1 cut).1, List.take_left]
      have fragment := slice_dollar dollar (size + payload.length + 1)
      simp only [← Nat.add_assoc] at fragment
      simp only [Option.map_some, inside, fragment, bind, Except.bind]
      cases form.operator payload <;> simp [Beginning.ofOpening, Nat.add_assoc]

theorem afterName_eq (name : Text) (size : Nat) :
    afterName text start name (start + 1 + size) =
      .ok (.ofOpening start after (Opening.afterName name size (after.drop size))) := by
  have here := drop_after dollar size
  rw [afterName]
  cases rest_eq : after.drop size with
  | nil => rw [if_pos (List.drop_eq_nil_iff.1 (here.trans rest_eq))]; rfl
  | cons s rest =>
    rw [rest_eq] at here
    rw [if_neg (Nat.not_le.2 (lt_length_of_drop here)), symbolAt_of_drop here]
    by_cases closes : s = .char '}'
    · subst closes
      rfl
    · rw [Opening.afterName_cons closes]
      simp only [bind, Except.bind, if_neg closes, sigilAt?, here]
      cases found : Sigil.read? (s :: rest) with
      | none => rfl
      | some parts =>
        obtain ⟨sigil, back⟩ := parts
        have behind : after.drop (size + sigil.text.length) = back := by
          rw [← List.drop_drop, rest_eq, Sigil.eq_append_of_read? found, List.drop_left]
        have inside := afterSigil_eq dollar name sigil (size + sigil.text.length)
        rw [behind, ← Nat.add_assoc] at inside
        exact inside

theorem nameAt?_eq (size : Nat) :
    nameAt? text (start + 1 + size) =
      match Text.leadingName (after.drop size) with
      | [] => none
      | name => some (name, start + 1 + (name.length + size)) := by
  rw [nameAt?, drop_after dollar]
  cases Text.leadingName (after.drop size) with
  | nil => rfl
  | cons first more =>
    have stop : start + 1 + size + (first :: more).length = start + 1 + ((first :: more).length + size) := by omega
    exact congrArg (fun stop => some (first :: more, stop)) stop

omit dollar

theorem lengthForm_eq {rest : Text} (dollar : text.drop start = .char '$' :: .char '{' :: .char '#' :: rest) :
    lengthForm text (start + 3) =
      .ok (.ofOpening start (.char '{' :: .char '#' :: rest) (Opening.lengthForm rest)) := by
  have named := nameAt?_eq dollar 2
  rw [List.drop_succ_cons, List.drop_succ_cons, List.drop_zero] at named
  rw [lengthForm, named, Opening.lengthForm]
  cases rest.leadingName with
  | nil => rfl
  | cons first more => exact closedAt_eq dollar (first :: more) .length ((first :: more).length + 2)

theorem braced_eq {rest : Text} (dollar : text.drop start = .char '$' :: .char '{' :: rest) :
    braced text start = .ok (.ofOpening start (.char '{' :: rest) (Opening.braced rest)) := by
  have here := drop_after dollar 1
  have named := nameAt?_eq dollar 1
  rw [List.drop_succ_cons, List.drop_zero] at here named
  rw [braced]
  cases rest with
  | nil => rw [if_pos (List.drop_eq_nil_iff.1 here)]; rfl
  | cons s tail =>
    rw [if_neg (Nat.not_le.2 (lt_length_of_drop here)), symbolAt_of_drop here]
    by_cases hash : s = .char '#'
    · subst hash
      exact lengthForm_eq dollar
    · rw [Opening.braced_cons hash]
      simp only [bind, Except.bind, if_neg hash, named]
      cases Text.leadingName (s :: tail) with
      | nil => rfl
      | cons first more => exact afterName_eq dollar (first :: more) ((first :: more).length + 1)

/-- What begins at a `$` is read by index as from the symbols after it. -/
theorem beginning_eq (dollar : text.drop start = .char '$' :: after) :
    beginning text start = .ok (.ofOpening start after (Opening.read after)) := by
  have here := drop_after dollar 0
  have named := nameAt?_eq dollar 0
  rw [Nat.add_zero, List.drop_zero] at here named
  rw [beginning, ← List.head?_drop, here]
  cases after with
  | nil => rw [List.head?_nil, if_neg (by simp), named]; rfl
  | cons s rest =>
    by_cases brace : s = .char '{'
    · subst brace
      exact braced_eq dollar
    · rw [Opening.read_cons brace, List.head?_cons, if_neg (by simpa using brace), named]
      cases Text.leadingName (s :: rest) with
      | nil => rfl
      | cons first more => rfl

end

end Indexed

/-! ## How far a reading goes on -/

namespace Opening

/-- A complete expression has symbols behind its `$`, all of them in the text. -/
theorem complete_size {after name : Text} {operator : Operator} {size : Nat}
    (opening : read after = .complete name operator size) : 0 < size ∧ size ≤ after.length := by
  refine ⟨?_, Plain.size_le_of_complete opening⟩
  have shape := read_shape after
  rw [opening] at shape
  rcases shape with ⟨named, ⟨inner, rest, rfl, -, rfl⟩ | ⟨-, rest, rfl, -, -, rfl⟩⟩
  · exact Nat.succ_pos _
  · cases name with
    | nil => cases named
    | cons first more => exact Nat.succ_pos _

end Opening

namespace Template

/-- Whether what is found has symbols behind its `$`, all of them in the text. -/
def Advances (attempt : Nat → Text → Trace → Attempt × Trace) : Prop :=
  ∀ ⦃position after trace node size starts trace'⦄,
    attempt position after trace = (.found node size starts, trace') → 0 < size ∧ size ≤ after.length

/-- A body ends at a closing brace, whatever is known. -/
theorem closesAt_of_closed {attempt : Nat → Text → Trace → Attempt × Trace} (advances : Advances attempt) {text : Text}
    {position stop : Nat} {trace : Trace} {pieces : List Piece}
    (closed : (scan attempt true [] 0 text position trace).1 = .closed pieces stop) : ClosesAt text position stop := by
  induction text using scanInduction true generalizing position pieces trace with
  | ended => cases closed
  | closing rest _ =>
    rw [scan_closing] at closed
    cases closed
    exact ⟨[], rest, rfl, rfl⟩
  | escape rest ih =>
    rw [scan_escape] at closed
    obtain ⟨more, later, -⟩ := Scan.prepend_eq_closed closed
    exact (ih later).append [_, _]
  | dollar rest ih =>
    cases tried : attempt position rest trace with
    | mk result after =>
      cases result with
      | found node size starts =>
        have inside := (advances tried).2
        rw [scan_found tried inside] at closed
        obtain ⟨more, later, -⟩ := Scan.prepend_eq_closed closed
        exact (ih size later).drop inside
      | kept =>
        rw [scan_kept tried] at closed
        obtain ⟨more, later, -⟩ := Scan.prepend_eq_closed closed
        exact (ih 0 later).append [_]
      | unterminated =>
        rw [scan_unterminated tried] at closed
        cases closed
      | malformed fault =>
        rw [scan_malformed tried] at closed
        cases closed
  | symbol s rest open_ bare other ih =>
    rw [scan_symbol open_ bare other] at closed
    obtain ⟨more, later, -⟩ := Scan.prepend_eq_closed closed
    exact (ih later).append [_]

theorem closesAt_of_scanBody {levels : Nat} (advances : Advances (attempt levels true)) {text : Text} {position stop : Nat}
    {trace : Trace} {pieces : List Piece} (closed : (scanBody levels text position trace).1 = .closed pieces stop) :
    ClosesAt text position stop := by
  rw [scanBody] at closed
  split at closed
  · exact closesAt_of_closed advances closed
  · cases closed

theorem giveUp_ne_found {inBody : Bool} {position size : Nat} {trace trace' : Trace} {node : Node} {starts : List Nat} :
    giveUp inBody position trace ≠ (.found node size starts, trace') := by
  cases inBody <;> simp [giveUp]

theorem attempt_advances (levels : Nat) (inBody : Bool) : Advances (attempt levels inBody) := by
  induction levels generalizing inBody with
  | zero =>
    intro position after trace node size starts trace' found
    cases found
  | succ levels ih =>
    intro position after trace node size starts trace' found
    by_cases member : position ∈ trace.unterminated
    · rw [attempt_known member] at found
      cases found
    · have shape := Opening.read_shape after
      cases opening : Opening.read after with
      | absent =>
        obtain ⟨trace'', -, kept⟩ := attempt_absent (levels + 1) inBody position trace opening
        rw [kept] at found
        cases found
      | unterminated =>
        rw [attempt_cut_off member opening] at found
        cases giveUp_ne_found found
      | malformed defect size =>
        rw [attempt_malformed member opening] at found
        cases found
      | complete name operator size =>
        rw [attempt_complete member opening] at found
        cases found
        exact Opening.complete_size opening
      | default name trigger size =>
        rw [opening] at shape
        obtain ⟨named, rfl, body, rfl⟩ := shape
        rw [attempt_start_scanBody inBody named member] at found
        cases scanned : scanBody levels body (position + 1 + (Opening.start name trigger).length) trace with
        | mk result trace'' =>
          rw [scanned] at found
          cases result with
          | closed pieces stop =>
            obtain ⟨inner, rest, rfl, rfl⟩ := closesAt_of_scanBody (ih true) (congrArg Prod.fst scanned)
            cases found
            simp only [List.length_append, List.length_cons]
            omega
          | unterminated => cases giveUp_ne_found found
          | malformed fault => cases found

end Template

namespace Indexed

/-! ## Scans -/

/-- What comes of the `$` at an index. -/
def Trial.ofAttempt (start : Nat) : Attempt → Trial
  | .found node size starts => .found node (start + 1 + size) starts
  | .kept => .kept
  | .unterminated => .unterminated
  | .malformed fault => .malformed fault

section
variable {text : Text}

theorem giveUp_eq (inBody : Bool) (start : Nat) (trace : Trace) :
    giveUp inBody start trace = (Template.giveUp inBody start trace).map (Trial.ofAttempt start) id := by
  cases inBody <;> rfl

/-- An expression is tried by index as from the symbols after its `$`, if the body of a default is scanned so. -/
theorem attempt_eq {start levels : Nat} {after : Text} {body : Nat → Trace → Except Breach (Scan × Trace)}
    (dollar : text.drop start = .char '$' :: after)
    (bodies : ∀ index trace, start < index → index ≤ text.length →
      body index trace = .ok (Template.scanBody levels (text.drop index) index trace))
    (inBody : Bool) (trace : Trace) :
    attempt text body inBody start trace =
      .ok ((Template.attempt (levels + 1) inBody start after trace).map (Trial.ofAttempt start) id) := by
  rw [attempt]
  simp only [List.contains_iff_mem, beginning_eq dollar]
  by_cases member : start ∈ trace.unterminated
  · rw [if_pos member, Template.attempt_known member]
    rfl
  · rw [if_neg member]
    have shape := Opening.read_shape after
    cases opening : Opening.read after with
    | absent => simp [Template.attempt, member, opening, Beginning.ofOpening, bind, Except.bind, Trial.ofAttempt]
    | unterminated =>
      rw [Template.attempt_cut_off member opening, ← giveUp_eq]
      rfl
    | malformed defect size =>
      rw [Template.attempt_malformed member opening]
      rfl
    | complete name operator size =>
      rw [Template.attempt_complete member opening]
      rfl
    | default name trigger size =>
      rw [opening] at shape
      obtain ⟨named, rfl, rest, rfl⟩ := shape
      have behind := drop_after dollar (Opening.start name trigger).length
      rw [List.drop_left] at behind
      have inside : start + 1 + (Opening.start name trigger).length ≤ text.length := by
        rw [length_eq dollar, List.length_append]
        omega
      have scanned := bodies _ trace (by omega) inside
      rw [behind] at scanned
      simp only [Beginning.ofOpening, bind, Except.bind, scanned]
      rw [Template.attempt_start_scanBody inBody named member]
      cases ended : Template.scanBody levels rest (start + 1 + (Opening.start name trigger).length) trace with
      | mk result trace' =>
        cases result with
        | closed pieces stop =>
          obtain ⟨inner, back, -, ends⟩ :=
            Template.closesAt_of_scanBody (Template.attempt_advances levels true) (congrArg Prod.fst ended)
          have passed : start + 1 + (stop - start) = stop + 1 := by omega
          simp only [Template.afterBody, Prod.map, Trial.ofAttempt, passed, id]
        | unterminated => exact congrArg Except.ok (giveUp_eq inBody start trace')
        | malformed fault => rfl

/-- A body is scanned by index as from its symbols, if the pieces of a body are. -/
theorem enter_eq {levels index : Nat} {trace : Trace} {nodes : Nat → Trace → Except Breach (Scan × Trace)}
    (scans : nodes index trace = .ok (Template.scan (Template.attempt levels true) true [] 0 (text.drop index) index trace)) :
    enter text nodes index trace = .ok (Template.scanBody levels (text.drop index) index trace) := by
  rw [enter, Template.scanBody]
  simp only [isBehindBraces_iff, List.contains_iff_mem, ite_not, scans]
  split <;> rfl

/-- Whether some steps are enough to scan from an index on as from the symbols there, where no more symbols are left than
    steps can pass. -/
def ScansAlike (text : Text) (steps : Nat) : Prop :=
  ∀ ⦃index⦄, index ≤ text.length → text.length < index + steps → ∀ levels inBody done trace,
    nodes text steps levels inBody done index trace =
      .ok (Template.scan (Template.attempt levels inBody) inBody done 0 (text.drop index) index trace)

/-- At a `$` one step more is enough: whatever the expression comes to, the scan goes on behind the `$`. -/
theorem nodes_dollar {steps index : Nat} {rest : Text} (scans : ScansAlike text steps)
    (here : text.drop index = .char '$' :: rest) (enough : text.length < index + (steps + 1)) (levels : Nat)
    (inBody : Bool) (done : List Piece) (trace : Trace) :
    nodes text (steps + 1) levels inBody done index trace =
      .ok (Template.scan (Template.attempt levels inBody) inBody done 0 (.char '$' :: rest) index trace) := by
  have more := lt_length_of_drop here
  have next : text.drop (index + 1) = rest := drop_after here 0
  have open_ : ¬ (Symbol.char '$' = .char '}' && inBody) = true := by simp
  have bare : ¬ (Symbol.char '$' = .char '\\' && rest.head? = some (.char '$')) = true := by simp
  rw [nodes, if_neg (Nat.not_le.2 more), symbolAt_of_drop here, Template.scan, ← List.head?_drop, next]
  simp only [bind, Except.bind]
  rw [if_neg open_, if_neg open_, if_neg bare, if_neg bare, if_pos trivial]
  cases levels with
  | zero =>
    rw [if_neg (by simp), scans (by omega) (by omega), next]
    rfl
  | succ levels =>
    have bodies : ∀ start trace, index < start → start ≤ text.length →
        enter text (nodes text steps levels true []) start trace = .ok (Template.scanBody levels (text.drop start) start trace) :=
      fun start trace later fits => enter_eq (scans fits (by omega) levels true [] trace)
    rw [if_pos (by simp), Nat.add_sub_cancel, attempt_eq here bodies]
    cases tried : Template.attempt (levels + 1) inBody index rest trace with
    | mk result trace' =>
      cases result with
      | found node size starts =>
        -- That the scan goes on inside the text and with enough steps is what the expression it passes tells of its end.
        obtain ⟨positive, fits⟩ := Template.attempt_advances _ _ tried
        have passed : index + 1 + size - index = size + 1 := by omega
        have stop : index + 1 + size ≤ text.length := length_eq here ▸ Nat.add_le_add_left fits _
        simp only [Prod.map, Trial.ofAttempt, id, passed]
        rw [scans stop (by omega), drop_after here, Template.scan_skip fits]
      | kept =>
        simp only [Prod.map, Trial.ofAttempt, id]
        rw [scans (by omega) (by omega), next]
      | unterminated => rfl
      | malformed fault => rfl

/-- With more steps than symbols left a text is scanned by index as from its symbols. -/
theorem scansAlike (text : Text) (steps : Nat) : ScansAlike text steps := by
  -- Every turn of the loop and every body is entered further on in the text with one step less, so more steps than symbols
  -- are left all the way.
  induction steps with
  | zero =>
    intro index inside enough
    omega
  | succ steps ih =>
    intro index inside enough levels inBody done trace
    cases here : text.drop index with
    | nil =>
      rw [nodes, if_pos (List.drop_eq_nil_iff.1 here)]
      rfl
    | cons s rest =>
      by_cases isDollar : s = .char '$'
      · subst isDollar
        exact nodes_dollar ih here enough levels inBody done trace
      · have more := lt_length_of_drop here
        have next : text.drop (index + 1) = rest := by rw [← List.drop_drop, here, List.drop_succ_cons, List.drop_zero]
        have untried : ¬ (s = .char '$' && 0 < levels) = true := by simp [isDollar]
        rw [nodes, if_neg (Nat.not_le.2 more), symbolAt_of_drop here, Template.scan, ← List.head?_drop, next]
        simp only [bind, Except.bind]
        by_cases closes : (s = .char '}' && inBody) = true
        · rw [if_pos closes, if_pos closes]
        · rw [if_neg closes, if_neg closes]
          by_cases escapes : (s = .char '\\' && rest.head? = some (.char '$')) = true
          · rw [if_pos escapes, if_pos escapes]
            obtain ⟨tail, rfl⟩ : ∃ tail, rest = .char '$' :: tail := List.head?_eq_some_iff.1 (by simp_all)
            have behind : text.drop (index + 2) = tail := by rw [← List.drop_drop, here]; rfl
            have further := lt_length_of_drop next
            rw [ih (by omega) (by omega), behind]
            rfl
          · rw [if_neg escapes, if_neg escapes, if_neg untried, if_neg isDollar, ih (by omega) (by omega), next]

/-- A closing brace that is searched for from an index on stands there or behind. -/
theorem closingBrace_ok (text : Text) (index : Nat) :
    ∃ brace?, closingBrace text index = .ok brace? ∧
      ∀ brace ∈ brace?, index ≤ brace ∧ text[brace]? = some (.char '}') := by
  refine ⟨_, closingBrace_eq text index, ?_⟩
  intro brace found
  obtain ⟨⟨before, after⟩, cut, rfl⟩ := Option.map_eq_some_iff.1 found
  exact ⟨Nat.le_add_right _ _, getElem?_of_drop (Text.cut?_eq_some_iff.1 cut).1⟩

theorem scanBody_eq {steps start : Nat} (inside : start ≤ text.length) (enough : text.length < start + steps) (levels : Nat)
    (trace : Trace) :
    scanBody text steps levels start trace = .ok (Template.scanBody levels (text.drop start) start trace) :=
  enter_eq (scansAlike text steps inside enough levels true [] trace)

/-- Every body is scanned to an end, and one that is closed is closed by a brace. -/
theorem scanBody_ok {steps start : Nat} (inside : start ≤ text.length) (enough : text.length < start + steps) (levels : Nat)
    (trace : Trace) :
    ∃ result trace', scanBody text steps levels start trace = .ok (result, trace') ∧
      ∀ pieces stop, result = .closed pieces stop → start ≤ stop ∧ text[stop]? = some (.char '}') := by
  refine ⟨_, _, scanBody_eq inside enough levels trace, ?_⟩
  intro pieces stop closed
  obtain ⟨inner, rest, split, rfl⟩ := Template.closesAt_of_scanBody (Template.attempt_advances levels true) closed
  exact ⟨Nat.le_add_right _ _, getElem?_of_drop split⟩

/-- Every `$` is tried to an end, and an expression that is found ends behind it and in the text. -/
theorem attemptAt_ok {steps start : Nat} (dollar : text[start]? = some (.char '$')) (enough : text.length ≤ start + steps)
    (levels : Nat) (inBody : Bool) (trace : Trace) :
    ∃ result trace', attemptAt text steps levels inBody start trace = .ok (result, trace') ∧
      ∀ node stop starts, result = .found node stop starts → start + 1 < stop ∧ stop ≤ text.length := by
  rw [← List.head?_drop] at dollar
  obtain ⟨after, here⟩ := List.head?_eq_some_iff.1 dollar
  have bodies : ∀ index trace, start < index → index ≤ text.length →
      scanBody text steps levels index trace = .ok (Template.scanBody levels (text.drop index) index trace) :=
    fun index trace later fits => scanBody_eq fits (by omega) levels trace
  have settled := attempt_eq here bodies inBody trace
  cases tried : Template.attempt (levels + 1) inBody start after trace with
  | mk result trace' =>
    rw [tried] at settled
    refine ⟨_, _, settled, ?_⟩
    intro node stop starts found
    cases result with
    | found node size starts =>
      cases found
      obtain ⟨positive, fits⟩ := Template.attempt_advances _ _ tried
      rw [length_eq here]
      omega
    | kept => cases found
    | unterminated => cases found
    | malformed fault => cases found

/-- A whole text is read by index as from its symbols. -/
theorem scanAll_eq {steps : Nat} (enough : text.length < steps) (levels : Nat) :
    scanAll text steps levels = .ok (Template.scanAll levels text) :=
  scansAlike text steps (Nat.zero_le _) (by omega) levels false [] .empty

end

/-- With more steps than a text has symbols, reading it by index ends, and it ends with a template or a fault. On the way,
    whatever is known, no symbol is looked up outside the text and no closing brace is searched for in vain, an expression that
    is found ends in the text and not before there is a symbol behind its `$`, and a body that is closed is closed by a brace
    from its beginning on. -/
theorem reads_without_breach (text : Text) :
    (∀ index, ∃ brace?, closingBrace text index = .ok brace? ∧
      ∀ brace ∈ brace?, index ≤ brace ∧ text[brace]? = some (.char '}')) ∧
    (∀ steps levels inBody start trace, text[start]? = some (.char '$') → text.length ≤ start + steps →
      ∃ result trace', attemptAt text steps levels inBody start trace = .ok (result, trace') ∧
        ∀ node stop starts, result = .found node stop starts → start + 1 < stop ∧ stop ≤ text.length) ∧
    (∀ steps levels start trace, start ≤ text.length → text.length < start + steps →
      ∃ result trace', scanBody text steps levels start trace = .ok (result, trace') ∧
        ∀ pieces stop, result = .closed pieces stop → start ≤ stop ∧ text[stop]? = some (.char '}')) ∧
    (∀ steps, text.length < steps →
      scanAll text steps Template.maxNesting = .ok (Template.scanAll Template.maxNesting text)) ∧
    ((∃ pieces stop, (Template.scanAll Template.maxNesting text).1 = .closed pieces stop ∧
        Template.parse text = .ok (Template.ofPieces pieces)) ∨
      ∃ fault, (Template.scanAll Template.maxNesting text).1 = .malformed fault ∧ Template.parse text = .error fault) := by
  refine ⟨closingBrace_ok text, ?_, ?_, fun steps enough => scanAll_eq enough _, ?_⟩
  · intro steps levels inBody start trace dollar enough
    exact attemptAt_ok dollar enough levels inBody trace
  · intro steps levels start trace inside enough
    exact scanBody_ok inside enough levels trace
  · cases scanned : (Template.scanAll Template.maxNesting text).1 with
    | closed pieces stop =>
      refine .inl ⟨pieces, stop, rfl, ?_⟩
      simp [Template.parse, Template.read, Reading.ofText, Reading.template, scanned, Except.map]
    | unterminated => exact absurd scanned (Template.scanAll_ne_unterminated _ text)
    | malformed fault =>
      refine .inr ⟨fault, rfl, ?_⟩
      simp [Template.parse, Template.read, Reading.ofText, Reading.template, scanned, Except.map]

/-- A default, and behind it an expression that the end of the text cuts off. -/
theorem reads_without_breach_cut_off :
    let text := Text.ofString "a$\x7bx=b\x7d$\x7by"
    (closingBrace text 5 = .ok (some 6) ∧ 5 ≤ 6 ∧ text[6]? = some (.char '}')) ∧
    (text[1]? = some (.char '$') ∧ text.length ≤ 1 + 9 ∧
      ∃ node starts trace, attemptAt text 9 31 false 1 .empty = .ok (.found node 7 starts, trace) ∧
        1 + 1 < 7 ∧ 7 ≤ text.length) ∧
    (5 ≤ text.length ∧ text.length < 5 + 6 ∧
      ∃ pieces trace, scanBody text 6 31 5 .empty = .ok (.closed pieces 6, trace) ∧
        5 ≤ 6 ∧ text[6]? = some (.char '}')) ∧
    text.length < 11 ∧ scanAll text 11 Template.maxNesting = .ok (Template.scanAll Template.maxNesting text) := by
  intro text
  obtain ⟨braces, attempts, bodies, whole, -⟩ := reads_without_breach text
  refine ⟨?_, ⟨rfl, by decide, ?_⟩, ⟨by decide, by decide, ?_⟩, by decide, whole 11 (by decide)⟩
  · obtain ⟨brace?, searched, stands⟩ := braces 5
    have found : closingBrace text 5 = .ok (some 6) := rfl
    rw [found] at searched
    cases searched
    exact ⟨found, stands 6 rfl⟩
  · obtain ⟨result, trace', tried, inside⟩ := attempts 9 31 false 1 .empty rfl (by decide)
    have found : attemptAt text 9 31 false 1 .empty = .ok (.found _ 7 _, _) := rfl
    rw [found] at tried
    cases tried
    exact ⟨_, _, _, found, inside _ _ _ rfl⟩
  · obtain ⟨result, trace', scanned, inside⟩ := bodies 6 31 5 .empty (by decide) (by decide)
    have closed : scanBody text 6 31 5 .empty = .ok (.closed _ 6, _) := rfl
    rw [closed] at scanned
    cases scanned
    exact ⟨_, _, closed, inside _ _ rfl⟩

end Indexed

end ShellTemplate
