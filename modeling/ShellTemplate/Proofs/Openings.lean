import ShellTemplate.Template.Canonical
import ShellTemplate.Template.Opening

/-!
# How far an opening reaches

What follows a `$` is settled by a bounded part of the text: an expression in braces by the symbols
up to the first closing brace, a bare name by the first symbol that does not go on with it. So what
is read does not change when the text after that part does (`read_append`), and the symbols that
belong to an opening have a simple shape (`read_shape`).
-/

namespace ShellTemplate

namespace Text

/-- Cutting at a symbol finds its first occurrence. -/
theorem cut?_eq_some_iff {separator : Symbol} {text before after : Text} :
    text.cut? [separator] = some (before, after) ↔ text = before ++ separator :: after ∧ separator ∉ before := by
  induction text generalizing before with
  | nil => simp
  | cons s rest ih =>
    rw [cut?_cons_symbol]
    by_cases same : s = separator
    · subst same
      cases before with
      | nil => simp [eq_comm]
      | cons t more => simp; grind
    · cases before with
      | nil => simp [same]
      | cons t more =>
        simp only [if_neg same, Option.map_eq_some_iff, Prod.exists, Prod.mk.injEq, List.cons.injEq]
        constructor
        · rintro ⟨front, back, found, ⟨rfl, rfl⟩, rfl⟩
          obtain ⟨rfl, absent⟩ := ih.1 found
          simp [absent, Ne.symm same]
        · rintro ⟨⟨rfl, rfl⟩, absent⟩
          exact ⟨more, after, ih.2 ⟨rfl, fun member => absent (List.mem_cons_of_mem _ member)⟩, ⟨rfl, rfl⟩, rfl⟩

/-- Cutting fails only where the symbol is missing. -/
theorem cut?_eq_none_iff {separator : Symbol} {text : Text} :
    text.cut? [separator] = none ↔ separator ∉ text := by
  induction text with
  | nil => simp
  | cons s rest ih =>
    rw [cut?_cons_symbol]
    by_cases same : s = separator
    · simp [same]
    · simp [same, Ne.symm same, ih]

/-- Whether a text does not go on with a variable name that ends before it. -/
def endsName (text : Text) : Prop :=
  ∀ s ∈ text.head?, s.continuesName = false

theorem continuesName_of_isName {name : Text} (named : name.isName) {s : Symbol} (member : s ∈ name) :
    s.continuesName = true := by
  cases name with
  | nil => cases member
  | cons first rest =>
    simp only [isName, Bool.and_eq_true, List.all_eq_true] at named
    rcases List.mem_cons.1 member with rfl | later
    · exact Symbol.continuesName_of_startsName named.1
    · exact named.2 s later

theorem not_mem_of_isName {name : Text} (named : name.isName) {s : Symbol} (other : s.continuesName = false) : s ∉ name := by
  intro member
  rw [continuesName_of_isName named member] at other
  cases other

/-- A name before a text that does not go on with it is the name that is read there. -/
theorem leadingName_append {name rest : Text} (named : name.isName) (ends : endsName rest) :
    (name ++ rest).leadingName = name := by
  cases name with
  | nil => cases named
  | cons first more =>
    have starts : first.startsName = true := by
      simp only [isName, Bool.and_eq_true] at named
      exact named.1
    have stop : rest.takeWhile Symbol.continuesName = [] := by
      cases rest with
      | nil => rfl
      | cons s _ => exact List.takeWhile_cons_of_neg (by simp [ends s rfl])
    show (if first.startsName then ((first :: more) ++ rest).takeWhile Symbol.continuesName else []) = first :: more
    rw [if_pos starts, List.takeWhile_append_of_pos fun s member => continuesName_of_isName named member, stop,
      List.append_nil]

/-- Where a name is read, the text is that name and something that does not go on with it. -/
theorem leadingName_spec (text : Text) :
    (text.leadingName = [] ∧ ∀ s ∈ text.head?, s.startsName = false) ∨
      ∃ rest, text = text.leadingName ++ rest ∧ text.leadingName.isName ∧ endsName rest := by
  cases text with
  | nil => exact .inl ⟨rfl, by simp⟩
  | cons first more =>
    by_cases starts : first.startsName = true
    · have continues := Symbol.continuesName_of_startsName starts
      refine .inr ⟨(first :: more).dropWhile Symbol.continuesName, ?_, ?_, ?_⟩
      · simp [leadingName, starts]
      · simp [leadingName, starts, continues, isName]
      · intro s member
        have stop := List.head?_dropWhile_not Symbol.continuesName (first :: more)
        rw [Option.mem_def.1 member] at stop
        exact stop
    · exact .inl ⟨by simp [leadingName, starts], by simpa using starts⟩

theorem length_leadingName_le (text : Text) : text.leadingName.length ≤ text.length := by
  rcases leadingName_spec text with ⟨none, -⟩ | ⟨rest, same, -, -⟩
  · simp [none]
  · have size := congrArg List.length same
    rw [List.length_append] at size
    omega

/-- A name is settled by the symbol after it. -/
theorem leadingName_append_of_ne_nil {text : Text} (present : text.drop text.leadingName.length ≠ []) (more : Text) :
    (text ++ more).leadingName = text.leadingName := by
  rcases leadingName_spec text with ⟨none, stop⟩ | ⟨rest, same, named, ends⟩
  · rw [none] at present
    obtain ⟨s, tail, rfl⟩ := List.exists_cons_of_ne_nil present
    simp [leadingName, stop s rfl]
  · generalize text.leadingName = name at same named present
    subst same
    rw [List.drop_left] at present
    obtain ⟨s, tail, rfl⟩ := List.exists_cons_of_ne_nil present
    rw [List.append_assoc]
    exact leadingName_append named ends

theorem closed_drop_leadingName {text : Text} (closed : .char '}' ∈ text) :
    .char '}' ∈ text.drop text.leadingName.length := by
  rcases leadingName_spec text with ⟨none, -⟩ | ⟨back, same, named, -⟩
  · rw [none]
    exact closed
  · generalize text.leadingName = name at same named
    subst same
    rw [List.drop_left]
    exact (List.mem_append.1 closed).resolve_left (not_mem_of_isName named rfl)

/-- A name is settled by the symbols up to a closing brace. -/
theorem leadingName_append_of_closed {text : Text} (closed : .char '}' ∈ text) (more : Text) :
    (text ++ more).leadingName = text.leadingName :=
  leadingName_append_of_ne_nil (List.ne_nil_of_mem (closed_drop_leadingName closed)) more

end Text

namespace Sigil

/-- Whether the text after a sigil leaves it as it is, and does not make a longer one of it. -/
def isSettledBy : Sigil → Text → Bool
  | .changeCase .upper .first, rest => rest.head? != some (.char '^')
  | .changeCase .lower .first, rest => rest.head? != some (.char ',')
  | .payload .substring, rest => rest.head? != some (.char '=')
  | .payload (.replace .first), rest =>
    rest.head? != some (.char '/') && rest.head? != some (.char '#') && rest.head? != some (.char '%')
  | .payload (.remove .leading false), rest => rest.head? != some (.char '#')
  | .payload (.remove .trailing false), rest => rest.head? != some (.char '%')
  | _, _ => true

theorem isSettledBy_of_read? {input rest : Text} {sigil : Sigil} (found : read? input = some (sigil, rest)) :
    sigil.isSettledBy rest := by
  have absent : ∀ {s : Symbol}, (∀ more, rest = s :: more → False) → rest.head? ≠ some s := by
    intro s other
    cases rest with
    | nil => simp
    | cons t more =>
      intro same
      exact other more (by simpa using same)
  unfold read? at found
  split at found <;> cases found
  all_goals first | rfl | simp_all [isSettledBy]

theorem read?_text {sigil : Sigil} {rest : Text} (settled : sigil.isSettledBy rest) :
    read? (sigil.text ++ rest) = some (sigil, rest) := by
  cases rest with
  | nil =>
    unfold text
    split <;> rfl
  | cons s more =>
    unfold text
    split
    all_goals first
      | rfl
      | simp only [isSettledBy, List.head?_cons, Bool.and_eq_true, bne_iff_ne, ne_eq, Option.some.injEq] at settled
        simp [read?, settled]

/-- The sigil that is read is the longest one. -/
theorem read?_eq_some_iff {input rest : Text} {sigil : Sigil} :
    read? input = some (sigil, rest) ↔ input = sigil.text ++ rest ∧ sigil.isSettledBy rest := by
  constructor
  · intro found
    exact ⟨eq_append_of_read? found, isSettledBy_of_read? found⟩
  · rintro ⟨rfl, settled⟩
    exact read?_text settled

theorem isSettledBy_append {sigil : Sigil} {rest : Text} (present : rest ≠ []) (more : Text) :
    sigil.isSettledBy (rest ++ more) = sigil.isSettledBy rest := by
  obtain ⟨s, tail, rfl⟩ := List.exists_cons_of_ne_nil present
  unfold isSettledBy
  split <;> rfl

/-- A symbol that begins a sigil is read as one. -/
theorem read?_ne_none {sigil : Sigil} {s : Symbol} {more : Text} (text_eq : sigil.text = s :: more) (rest : Text) :
    read? (s :: rest) ≠ none := by
  intro missing
  unfold read? at missing
  split at missing <;> cases missing
  rename_i _ _ caret _ comma _ colon equals _ _ _ slash _ hash _ percent
  unfold text at text_eq
  split at text_eq <;> cases text_eq
  all_goals first
    | exact caret rest rfl
    | exact comma rest rfl
    | exact colon rest rfl
    | exact equals rest rfl
    | exact slash rest rfl
    | exact hash rest rfl
    | exact percent rest rfl

theorem text_ne_nil (sigil : Sigil) : sigil.text ≠ [] := by
  unfold text
  split <;> simp

theorem read?_append_of_none {rest : Text} (missing : read? rest = none) (present : rest ≠ []) (more : Text) :
    read? (rest ++ more) = none := by
  obtain ⟨s, tail, rfl⟩ := List.exists_cons_of_ne_nil present
  cases longer : read? (s :: tail ++ more) with
  | none => rfl
  | some parts =>
    obtain ⟨sigil, back⟩ := parts
    obtain ⟨first, others, text_eq⟩ := List.exists_cons_of_ne_nil sigil.text_ne_nil
    have same := eq_append_of_read? longer
    rw [text_eq] at same
    obtain ⟨rfl, -⟩ := List.cons.inj same
    exact absurd missing (read?_ne_none text_eq tail)

theorem read?_append_of_some {rest back : Text} {sigil : Sigil} (found : read? rest = some (sigil, back)) (present : back ≠ [])
    (more : Text) : read? (rest ++ more) = some (sigil, back ++ more) := by
  obtain ⟨rfl, settled⟩ := read?_eq_some_iff.1 found
  exact read?_eq_some_iff.2 ⟨by rw [List.append_assoc], by rwa [isSettledBy_append present]⟩

theorem brace_not_mem_text (sigil : Sigil) : .char '}' ∉ sigil.text := by
  unfold text
  split <;> decide

/-- A sigil is settled by the symbols up to a closing brace. -/
theorem read?_append {rest : Text} (closed : .char '}' ∈ rest) (more : Text) :
    read? (rest ++ more) = (read? rest).map fun parts => (parts.1, parts.2 ++ more) := by
  cases here : read? rest with
  | none => exact read?_append_of_none here (List.ne_nil_of_mem closed) more
  | some parts =>
    obtain ⟨sigil, back⟩ := parts
    refine read?_append_of_some here ?_ more
    rintro rfl
    rw [eq_append_of_read? here, List.append_nil] at closed
    exact brace_not_mem_text sigil closed

end Sigil

namespace Opening

/-- The symbols of an expression in braces, after its `$`: they end at the first closing brace. -/
def Braced (after : Text) (size : Nat) : Prop :=
  ∃ inner rest, after = inner ++ .char '}' :: rest ∧ .char '}' ∉ inner ∧ size = inner.length + 1

/-- The symbols of a name without braces, after its `$`. -/
def Bare (name after : Text) (size : Nat) : Prop :=
  ∃ rest, after = name ++ rest ∧ name.isName ∧ rest.endsName ∧ size = name.length

/-- The symbols before the body of a default. -/
def start (name : Text) (trigger : Trigger) : Text :=
  .char '{' :: name ++ (Sigil.default trigger).text

/-- What the symbols of an opening look like. -/
def Shape (after : Text) : Opening → Prop
  | .absent => True
  | .unterminated => .char '}' ∉ after
  | .malformed _ size => Braced after size
  | .complete name operator size => name.isName ∧ (Braced after size ∨ operator = .value ∧ Bare name after size)
  | .default name trigger size =>
    name.isName ∧ size = (start name trigger).length ∧ ∃ rest, after = start name trigger ++ rest

theorem ofSigil_shape {name front : Text} (named : name.isName) (sigil : Sigil)
    (front_eq : front = .char '{' :: name ++ sigil.text)
    (rest : Text) : (ofSigil name sigil front.length rest).Shape (front ++ rest) := by
  have clean_name : .char '}' ∉ name := Text.not_mem_of_isName named rfl
  have clean : .char '}' ∉ front := by
    simp [front_eq, clean_name, Sigil.brace_not_mem_text]
  unfold ofSigil
  cases sigil with
  | changeCase letters extent =>
    dsimp only
    split
    · simpa [Shape] using clean
    · exact ⟨named, .inl ⟨front, _, rfl, clean, rfl⟩⟩
    · trivial
  | default trigger => exact ⟨named, by rw [front_eq]; rfl, rest, by rw [front_eq]; rfl⟩
  | payload form =>
    have closing : ∀ {payload back : Text}, rest = payload ++ .char '}' :: back → .char '}' ∉ payload →
        Braced (front ++ rest) (front.length + payload.length + 1) := by
      rintro payload back rfl absent
      exact ⟨front ++ payload, back, by simp, by simp [clean, absent], by simp⟩
    dsimp only
    split
    · rename_i missing
      simpa [Shape, clean] using Text.cut?_eq_none_iff.1 missing
    · rename_i payload back found
      obtain ⟨same, absent⟩ := Text.cut?_eq_some_iff.1 found
      split
      · exact closing same absent
      · exact ⟨named, .inl (closing same absent)⟩

theorem afterName_shape {name : Text} (named : name.isName) (rest : Text) :
    (afterName name (name.length + 1) rest).Shape (.char '{' :: name ++ rest) := by
  have clean : .char '}' ∉ name := Text.not_mem_of_isName named rfl
  unfold afterName
  split
  · simpa [Shape] using clean
  · exact ⟨named, .inl ⟨.char '{' :: name, _, rfl, by simp [clean], rfl⟩⟩
  · split
    · trivial
    · rename_i sigil back found
      rw [Sigil.eq_append_of_read? found]
      have shape := ofSigil_shape named sigil rfl back
      simpa [Nat.add_right_comm, Nat.add_comm 1] using shape

theorem lengthForm_shape (rest : Text) : (lengthForm rest).Shape (.char '{' :: .char '#' :: rest) := by
  unfold lengthForm
  rcases Text.leadingName_spec rest with ⟨none, -⟩ | ⟨back, same, named, -⟩
  · rw [none]
    trivial
  · generalize rest.leadingName = name at same named
    subst same
    have clean : .char '}' ∉ name := Text.not_mem_of_isName named rfl
    split
    · trivial
    · rw [List.drop_left]
      split
      · simpa [Shape] using clean
      · exact ⟨named, .inl ⟨.char '{' :: .char '#' :: name, _, rfl, by simp [clean], rfl⟩⟩
      · trivial

theorem braced_shape (rest : Text) : (braced rest).Shape (.char '{' :: rest) := by
  unfold braced
  split
  · simp [Shape]
  · exact lengthForm_shape _
  · rcases Text.leadingName_spec rest with ⟨none, -⟩ | ⟨back, same, named, -⟩
    · rw [none]
      trivial
    · generalize rest.leadingName = name at same named
      subst same
      split
      · trivial
      · rw [List.drop_left]
        exact afterName_shape named back

/-- The symbols that belong to what is read have the shape of it. -/
theorem read_shape (after : Text) : (read after).Shape after := by
  unfold read
  split
  · exact braced_shape _
  · rcases Text.leadingName_spec after with ⟨none, -⟩ | ⟨back, same, named, ends⟩
    · rw [none]
      trivial
    · generalize after.leadingName = name at same named
      subst same
      split
      · trivial
      · exact ⟨named, .inr ⟨rfl, back, rfl, named, ends, rfl⟩⟩

theorem ofSigil_append (name : Text) (sigil : Sigil) (size : Nat) {rest : Text} (closed : .char '}' ∈ rest)
    (more : Text) : ofSigil name sigil size (rest ++ more) = ofSigil name sigil size rest := by
  obtain ⟨s, tail, rfl⟩ := List.exists_cons_of_ne_nil (List.ne_nil_of_mem closed)
  cases sigil with
  | changeCase letters extent => by_cases brace : s = .char '}' <;> simp [ofSigil, brace]
  | default trigger => rfl
  | payload form =>
    cases cut : Text.cut? (s :: tail) [.char '}'] with
    | none => exact absurd closed (Text.cut?_eq_none_iff.1 cut)
    | some parts =>
      obtain ⟨payload, back⟩ := parts
      obtain ⟨same, absent⟩ := Text.cut?_eq_some_iff.1 cut
      have longer : Text.cut? (s :: tail ++ more) [.char '}'] = some (payload, back ++ more) :=
        Text.cut?_eq_some_iff.2 ⟨by rw [same]; simp, absent⟩
      simp only [ofSigil, cut, longer]

theorem afterName_cons {s : Symbol} (other : s ≠ .char '}') (name : Text) (size : Nat) (tail : Text) :
    afterName name size (s :: tail) =
      match Sigil.read? (s :: tail) with
      | none => .absent
      | some (sigil, rest) => ofSigil name sigil (size + sigil.text.length) rest := by
  unfold afterName
  split
  · contradiction
  · simp_all
  · rfl

theorem braced_cons {s : Symbol} (other : s ≠ .char '#') (tail : Text) :
    braced (s :: tail) =
      match Text.leadingName (s :: tail) with
      | [] => .absent
      | name => afterName name (name.length + 1) ((s :: tail).drop name.length) := by
  unfold braced
  split
  · contradiction
  · simp_all
  · rfl

theorem read_cons {s : Symbol} (other : s ≠ .char '{') (tail : Text) :
    read (s :: tail) =
      match Text.leadingName (s :: tail) with
      | [] => .absent
      | name => .complete name .value name.length := by
  unfold read
  split
  · simp_all
  · rfl

theorem afterName_append (name : Text) (size : Nat) {rest : Text} (closed : .char '}' ∈ rest) (more : Text) :
    afterName name size (rest ++ more) = afterName name size rest := by
  have read := Sigil.read?_append closed more
  obtain ⟨s, tail, rfl⟩ := List.exists_cons_of_ne_nil (List.ne_nil_of_mem closed)
  by_cases brace : s = .char '}'
  · subst brace
    rfl
  · rw [List.cons_append, afterName_cons brace, afterName_cons brace, ← List.cons_append, read]
    cases found : Sigil.read? (s :: tail) with
    | none => rfl
    | some parts =>
      obtain ⟨sigil, back⟩ := parts
      refine ofSigil_append name sigil _ ?_ more
      rw [Sigil.eq_append_of_read? found] at closed
      exact (List.mem_append.1 closed).resolve_left (Sigil.brace_not_mem_text sigil)

theorem lengthForm_append {rest : Text} (closed : .char '}' ∈ rest) (more : Text) :
    lengthForm (rest ++ more) = lengthForm rest := by
  have inside := Text.closed_drop_leadingName closed
  have fits := rest.length_leadingName_le
  unfold lengthForm
  rw [Text.leadingName_append_of_closed closed more]
  cases name : rest.leadingName with
  | nil => rfl
  | cons first tail =>
    rw [name] at inside fits
    dsimp only
    rw [List.drop_append_of_le_length fits]
    obtain ⟨s, back, same⟩ := List.exists_cons_of_ne_nil (List.ne_nil_of_mem inside)
    rw [same]
    by_cases brace : s = .char '}' <;> simp [brace]

theorem braced_append {rest : Text} (closed : .char '}' ∈ rest) (more : Text) :
    braced (rest ++ more) = braced rest := by
  have inside := Text.closed_drop_leadingName closed
  have fits := rest.length_leadingName_le
  have name := Text.leadingName_append_of_closed closed more
  obtain ⟨s, tail, rfl⟩ := List.exists_cons_of_ne_nil (List.ne_nil_of_mem closed)
  by_cases mark : s = .char '#'
  · subst mark
    exact lengthForm_append (by simpa using closed) more
  · rw [List.cons_append, braced_cons mark, braced_cons mark, ← List.cons_append, name]
    cases found : Text.leadingName (s :: tail) with
    | nil => rfl
    | cons first more =>
      rw [found] at inside fits
      dsimp only
      rw [List.drop_append_of_le_length fits]
      exact afterName_append _ _ inside _

/-- What follows a `$` is settled by the symbols up to a closing brace. -/
theorem read_append {after : Text}
    (closed : .char '}' ∈ after) (more : Text) : read (after ++ more) = read after := by
  have name := Text.leadingName_append_of_closed closed more
  obtain ⟨s, tail, rfl⟩ := List.exists_cons_of_ne_nil (List.ne_nil_of_mem closed)
  by_cases brace : s = .char '{'
  · subst brace
    exact braced_append (by simpa using closed) more
  · rw [List.cons_append, read_cons brace, read_cons brace, ← List.cons_append, name]

section
variable {name rest : Text} {sigil : Sigil} {size : Nat}

theorem ofSigil_append_of_absent (absent : ofSigil name sigil size rest = .absent) (more : Text) :
    rest ≠ [] ∧ ofSigil name sigil size (rest ++ more) = .absent := by
  cases sigil with
  | changeCase letters extent =>
    cases rest with
    | nil => cases absent
    | cons s tail => by_cases brace : s = .char '}' <;> simp_all [ofSigil]
  | default trigger => cases absent
  | payload form =>
    unfold ofSigil at absent
    dsimp only at absent
    split at absent
    · cases absent
    · split at absent <;> cases absent

theorem afterName_append_of_absent (absent : afterName name size rest = .absent) (more : Text) :
    rest ≠ [] ∧ afterName name size (rest ++ more) = .absent := by
  cases rest with
  | nil => cases absent
  | cons s tail =>
    refine ⟨List.cons_ne_nil s tail, ?_⟩
    have other : s ≠ .char '}' := by
      rintro rfl
      cases absent
    rw [afterName_cons other] at absent
    rw [List.cons_append, afterName_cons other, ← List.cons_append]
    cases found : Sigil.read? (s :: tail) with
    | none => rw [Sigil.read?_append_of_none found (List.cons_ne_nil s tail)]
    | some parts =>
      obtain ⟨sigil, back⟩ := parts
      rw [found] at absent
      obtain ⟨present, further⟩ := ofSigil_append_of_absent absent more
      rw [Sigil.read?_append_of_some found present]
      exact further

theorem lengthForm_append_of_absent (absent : lengthForm rest = .absent) (present : rest ≠ []) (more : Text) :
    lengthForm (rest ++ more) = .absent := by
  unfold lengthForm at absent ⊢
  cases name : rest.leadingName with
  | nil => rw [Text.leadingName_append_of_ne_nil (by simpa [name] using present), name]
  | cons first others =>
    rw [name] at absent
    dsimp only at absent
    have fits := name ▸ rest.length_leadingName_le
    cases behind : rest.drop (first :: others).length with
    | nil =>
      rw [behind] at absent
      cases absent
    | cons s tail =>
      rw [Text.leadingName_append_of_ne_nil (by rw [name, behind]; exact List.cons_ne_nil s tail), name]
      dsimp only
      rw [List.drop_append_of_le_length fits, behind]
      rw [behind] at absent
      by_cases brace : s = .char '}' <;> simp_all

theorem braced_append_of_absent (absent : braced rest = .absent) {more : Text}
    (length : rest = [.char '#'] → lengthForm more = .absent) : braced (rest ++ more) = .absent := by
  cases rest with
  | nil => cases absent
  | cons s tail =>
    by_cases mark : s = .char '#'
    · subst mark
      cases tail with
      | nil => exact length rfl
      | cons t tail => exact lengthForm_append_of_absent absent (List.cons_ne_nil t tail) more
    · rw [braced_cons mark] at absent
      rw [List.cons_append, braced_cons mark, ← List.cons_append]
      cases name : Text.leadingName (s :: tail) with
      | nil => rw [Text.leadingName_append_of_ne_nil (by simp [name]), name]
      | cons first others =>
        rw [name] at absent
        obtain ⟨present, further⟩ := afterName_append_of_absent absent more
        have fits := name ▸ Text.length_leadingName_le (s :: tail)
        rw [Text.leadingName_append_of_ne_nil (by rw [name]; exact present), name]
        dsimp only
        rw [List.drop_append_of_le_length fits]
        exact further

/-- Where no expression begins, none does when the text goes on, but after a `$` and where the length of a
    variable is asked for with no name yet. -/
theorem read_append_of_absent {after : Text} (absent : read after = .absent) {more : Text}
    (bare : after = [] → read more = .absent) (length : after = [.char '{', .char '#'] → lengthForm more = .absent) :
    read (after ++ more) = .absent := by
  cases after with
  | nil => exact bare rfl
  | cons s tail =>
    by_cases brace : s = .char '{'
    · subst brace
      refine braced_append_of_absent absent ?_
      rintro rfl
      exact length rfl
    · rw [read_cons brace] at absent
      rw [List.cons_append, read_cons brace, ← List.cons_append]
      cases name : Text.leadingName (s :: tail) with
      | nil => rw [Text.leadingName_append_of_ne_nil (by simp [name]), name]
      | cons first others =>
        rw [name] at absent
        cases absent

end

/-- A name after the brace is read up to what does not go on with it. -/
theorem read_braced {name rest : Text} (named : name.isName) (ends : rest.endsName) :
    read (.char '{' :: (name ++ rest)) = afterName name (name.length + 1) rest := by
  have leading := Text.leadingName_append named ends
  cases name with
  | nil => cases named
  | cons first more =>
    have mark : first ≠ .char '#' := by
      rintro rfl
      cases named
    show braced (first :: (more ++ rest)) = _
    rw [braced_cons mark, ← List.cons_append, leading]
    dsimp only
    rw [List.drop_left]

/-- A name and a sigil after the brace are read as what they are. -/
theorem read_sigil {name : Text} (named : name.isName) {sigil : Sigil} {rest : Text}
    (settled : sigil.isSettledBy rest) :
    read (.char '{' :: name ++ sigil.text ++ rest) =
      ofSigil name sigil (name.length + 1 + sigil.text.length) rest := by
  have nonempty : ∃ s tail, sigil.text = s :: tail ∧ s ≠ .char '}' ∧ s.continuesName = false := by
    unfold Sigil.text
    split <;> exact ⟨_, _, rfl, by decide, by decide⟩
  obtain ⟨s, tail, text, other, stops⟩ := nonempty
  have ends : (sigil.text ++ rest).endsName := by
    rw [text]
    rintro t ⟨rfl⟩
    exact stops
  have found := Sigil.read?_eq_some_iff.2 ⟨rfl, settled⟩
  calc
    read (.char '{' :: name ++ sigil.text ++ rest) = afterName name (name.length + 1) (sigil.text ++ rest) := by
      rw [List.cons_append, List.cons_append, List.append_assoc]
      exact read_braced named ends
    _ = ofSigil name sigil (name.length + 1 + sigil.text.length) rest := by
      rw [text, List.cons_append] at found ⊢
      rw [afterName_cons other, found]
      dsimp only
      rw [text]

/-- The payload of an operator is read up to the first closing brace, and is what decides. -/
theorem read_form {name payload : Text} (tail : Text) {form : PayloadForm} (named : name.isName) (clean : .char '}' ∉ payload)
    (settled : (Sigil.payload form).isSettledBy (payload ++ .char '}' :: tail)) :
    (∀ operator, form.operator payload = .ok operator →
      read (.char '{' :: name ++ ((Sigil.payload form).text ++ payload) ++ .char '}' :: tail) =
        .complete name operator (name.length + ((Sigil.payload form).text ++ payload).length + 2)) ∧
    ∀ defect, form.operator payload = .error defect →
      read (.char '{' :: name ++ ((Sigil.payload form).text ++ payload) ++ .char '}' :: tail) =
        .malformed defect (name.length + ((Sigil.payload form).text ++ payload).length + 2) := by
  have cut : (payload ++ .char '}' :: tail).cut? [.char '}'] = some (payload, tail) := Text.cut?_eq_some_iff.2 ⟨rfl, clean⟩
  have size : name.length + 1 + (Sigil.payload form).text.length + payload.length + 1 =
      name.length + ((Sigil.payload form).text ++ payload).length + 2 := by
    rw [List.length_append]
    omega
  rw [← List.append_assoc, List.append_assoc, read_sigil named settled, ofSigil, cut]
  dsimp only
  rw [size]
  constructor
  · intro operator accepted
    rw [accepted]
  · intro defect refused
    rw [refused]

/-- The beginning of a default is read as such, whatever its body. -/
theorem read_start {name : Text} (named : name.isName) (trigger : Trigger) (body : Text) :
    read (start name trigger ++ body) = .default name trigger (start name trigger).length := by
  have settled : (Sigil.default trigger).isSettledBy body := by cases trigger <;> rfl
  have read := read_sigil named settled
  rw [start, read]
  simp [ofSigil, Nat.add_right_comm]

/-- A name without braces is read up to what does not go on with it. -/
theorem read_name {name rest : Text} (named : name.isName) (ends : rest.endsName) :
    read (name ++ rest) = .complete name .value name.length := by
  have leading := Text.leadingName_append named ends
  cases name with
  | nil => cases named
  | cons first more =>
    have brace : first ≠ .char '{' := by
      rintro rfl
      cases named
    rw [List.cons_append, read_cons brace, ← List.cons_append, leading]

/-- A name without braces is read as one, longer or not, whatever follows. -/
theorem read_name_append {name : Text} (named : name.isName) (more : Text) :
    ∃ longer size, read (name ++ more) = .complete longer .value size := by
  have longer : (name ++ more.takeWhile Symbol.continuesName).isName := by
    cases name with
    | nil => cases named
    | cons first rest =>
      simp only [Text.isName, Bool.and_eq_true, List.cons_append, List.all_append] at named ⊢
      exact ⟨named.1, named.2, List.all_takeWhile⟩
  have ends : Text.endsName (more.dropWhile Symbol.continuesName) := by
    intro s member
    have stop := List.head?_dropWhile_not Symbol.continuesName more
    rw [Option.mem_def.1 member] at stop
    exact stop
  have read := read_name longer ends
  rw [List.append_assoc, List.takeWhile_append_dropWhile] at read
  exact ⟨_, _, read⟩

end Opening

end ShellTemplate
