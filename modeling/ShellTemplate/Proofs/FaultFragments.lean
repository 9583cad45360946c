import ShellTemplate.Proofs.PlainReading

/-!
# Faults and their fragments

A fault belongs to one expression in braces, whatever stands around it: its fragment is found in the text
at its position, has the form of a substring or of a replacement of one occurrence, and has the same fault
when it is read by itself (`parse_fault`).
-/

namespace ShellTemplate

/-- Whether an operator that is given by a payload refuses it, between its sigil and the first closing brace. -/
structure PayloadForm.Refuses (form : PayloadForm) (payload back : Text) (defect : Defect) : Prop where
  clean : .char '}' ∉ payload
  settled : (Sigil.payload form).isSettledBy (payload ++ .char '}' :: back)
  refused : form.operator payload = .error defect

/-- Whether a text is an expression in braces with an operator that not every payload suits: `:` but not `:=`,
    or one of `/`, `/#` and `/%` but not `//`. -/
def Text.IsFaultForm (fragment : Text) : Prop :=
  ∃ name sigil payload : Text, name.isName ∧ sigil ∈ [ofString ":", ofString "/", ofString "/#", ofString "/%"] ∧
    (sigil = ofString ":" → payload.head? ≠ some (.char '=')) ∧ (sigil = ofString "/" → payload.head? ≠ some (.char '/')) ∧
      .char '}' ∉ payload ∧ fragment = braced (name ++ sigil ++ payload)

/-- An operator that refuses its payload takes out a substring or replaces one occurrence, so that the expression has
    the form of a fault. -/
theorem PayloadForm.Refuses.isFaultForm {form : PayloadForm} {name payload back : Text} {defect : Defect}
    (refuses : form.Refuses payload back defect) (named : name.isName) :
    Text.IsFaultForm (Text.braced (name ++ (Sigil.payload form).text ++ payload)) := by
  obtain ⟨clean, settled, refused⟩ := refuses
  have head : ∀ {s}, (payload ++ .char '}' :: back).head? ≠ some s → payload.head? ≠ some s := by
    intro s other same
    rw [List.head?_append, same] at other
    exact other rfl
  cases form with
  | remove edge longest => cases refused
  | substring =>
    have plain : payload.head? ≠ some (.char '=') := head (by simpa [Sigil.isSettledBy] using settled)
    exact ⟨name, _, payload, named, by decide, fun _ => plain, fun same => absurd same (by decide), clean, rfl⟩
  | replace which =>
    cases which with
    | all =>
      simp only [operator, readReplacement] at refused
      split at refused <;> cases refused
    | first =>
      simp only [Sigil.isSettledBy, Bool.and_eq_true, bne_iff_ne] at settled
      have single : payload.head? ≠ some (.char '/') := head settled.1.1
      exact ⟨name, _, payload, named, by decide, fun same => absurd same (by decide), fun _ => single, clean, rfl⟩
    | leading =>
      exact ⟨name, _, payload, named, by decide, fun same => absurd same (by decide), fun same => absurd same (by decide), clean, rfl⟩
    | trailing =>
      exact ⟨name, _, payload, named, by decide, fun same => absurd same (by decide), fun same => absurd same (by decide), clean, rfl⟩

/-- What has that form holds a colon or a slash. -/
theorem Text.IsFaultForm.colon_or_slash {fragment : Text} (form : fragment.IsFaultForm) :
    .char ':' ∈ fragment ∨ .char '/' ∈ fragment := by
  obtain ⟨name, sigil, payload, -, member, -, -, -, rfl⟩ := form
  have own : .char ':' ∈ sigil ∨ .char '/' ∈ sigil := by
    revert sigil
    decide
  have inside : ∀ {s}, s ∈ sigil → s ∈ braced (name ++ sigil ++ payload) := by
    intro s present
    simp [braced, present]
  exact own.imp inside inside

namespace Opening

section
variable {name rest : Text} {start size : Nat} {defect : Defect}

theorem ofSigil_eq_malformed {sigil : Sigil} (settled : sigil.isSettledBy rest)
    (malformed : ofSigil name sigil start rest = .malformed defect size) :
    ∃ form payload back, sigil = .payload form ∧ rest = payload ++ .char '}' :: back ∧ size = start + payload.length + 1 ∧
      form.Refuses payload back defect := by
  cases sigil with
  | changeCase letters extent =>
    unfold ofSigil at malformed
    dsimp only at malformed
    split at malformed <;> cases malformed
  | default trigger => cases malformed
  | payload form =>
    unfold ofSigil at malformed
    dsimp only at malformed
    split at malformed
    · cases malformed
    · rename_i payload back found
      obtain ⟨rfl, clean⟩ := Text.cut?_eq_some_iff.1 found
      split at malformed
      · rename_i refused
        cases malformed
        exact ⟨form, payload, back, rfl, rfl, rfl, clean, settled, refused⟩
      · cases malformed

theorem afterName_eq_malformed (malformed : afterName name start rest = .malformed defect size) :
    ∃ form payload back, rest = (Sigil.payload form).text ++ payload ++ .char '}' :: back ∧
      size = start + ((Sigil.payload form).text ++ payload).length + 1 ∧ form.Refuses payload back defect := by
  cases rest with
  | nil => cases malformed
  | cons s tail =>
    have other : s ≠ .char '}' := by
      rintro rfl
      cases malformed
    rw [afterName_cons other] at malformed
    cases found : Sigil.read? (s :: tail) with
    | none =>
      rw [found] at malformed
      cases malformed
    | some parts =>
      obtain ⟨sigil, behind⟩ := parts
      rw [found] at malformed
      obtain ⟨same, settled⟩ := Sigil.read?_eq_some_iff.1 found
      obtain ⟨form, payload, back, rfl, rfl, rfl, refuses⟩ := ofSigil_eq_malformed settled malformed
      exact ⟨form, payload, back, by rw [same, List.append_assoc], by rw [List.length_append, Nat.add_assoc start], refuses⟩

theorem lengthForm_ne_malformed (rest : Text) (defect : Defect) (size : Nat) : lengthForm rest ≠ .malformed defect size := by
  unfold lengthForm
  repeat' split
  all_goals simp

/-- What is malformed is a name, a sigil and a payload that the operator of the sigil refuses. -/
theorem read_eq_malformed {after : Text} (malformed : read after = .malformed defect size) :
    ∃ name form payload back, name.isName ∧
      after = .char '{' :: (name ++ (Sigil.payload form).text ++ payload) ++ .char '}' :: back ∧
      size = (.char '{' :: (name ++ (Sigil.payload form).text ++ payload)).length + 1 ∧ form.Refuses payload back defect := by
  cases after with
  | nil => cases malformed
  | cons s tail =>
    by_cases brace : s = .char '{'
    · subst brace
      rcases Text.leadingName_spec tail with ⟨missing, -⟩ | ⟨rest, split_, named, ends⟩
      · have unnamed : braced tail ≠ .malformed defect size := by
          unfold braced
          split
          · simp
          · exact lengthForm_ne_malformed _ defect size
          · simp [missing]
        exact absurd malformed unnamed
      · generalize Text.leadingName tail = name at split_ named
        subst split_
        rw [read_braced named ends] at malformed
        obtain ⟨form, payload, back, rfl, rfl, refuses⟩ := afterName_eq_malformed malformed
        refine ⟨name, form, payload, back, named, by simp, ?_, refuses⟩
        simp only [List.length_cons, List.length_append]
        omega
    · rw [read_cons brace] at malformed
      split at malformed <;> cases malformed

end

end Opening

/-- The fragment of a fault is the expression from its `$` to the first closing brace. -/
theorem FaultAt.fragment_eq {text : Text} {position : Nat} {fault : Fault} (blamed : FaultAt text position fault) :
    ∃ front name form payload back, text = front ++ (fault.fragment ++ back) ∧ fault.position = position + front.length ∧
      name.isName ∧ fault.fragment = Text.braced (name ++ (Sigil.payload form).text ++ payload) ∧
      form.Refuses payload back fault.defect := by
  obtain ⟨front, after, size, rfl, place, opening, fragment⟩ := blamed
  obtain ⟨name, form, payload, back, named, rfl, rfl, refuses⟩ := Opening.read_eq_malformed opening
  have own : fault.fragment = Text.braced (name ++ (Sigil.payload form).text ++ payload) := by
    rw [fragment, List.append_cons, List.take_left' (by rw [List.length_append]; rfl)]
    rfl
  refine ⟨front, name, form, payload, back, ?_, place, named, own, refuses⟩
  rw [own]
  simp [Text.braced]

namespace Template

/-- A text that is one expression with a defect has its fault. -/
theorem parse_of_malformed {after : Text} {defect : Defect} (opening : Opening.read after = .malformed defect after.length) :
    parse (.char '$' :: after) = .error ⟨defect, .char '$' :: after, 0⟩ := by
  have tried : attempt maxNesting false 0 after .empty = (.malformed ⟨defect, .char '$' :: after, 0⟩, .empty) := by
    rw [maxNesting, attempt_malformed (by simp [Trace.empty]) opening, List.take_of_length_le (Nat.le_refl _)]
  rw [parse_eq_error_iff, scanAll, scan_malformed tried]

/-- The fragment of a fault has the same fault when it is read by itself. -/
theorem parse_fragment {text : Text} {position : Nat} {fault : Fault} (blamed : FaultAt text position fault) :
    parse fault.fragment = .error { fault with position := 0 } := by
  obtain ⟨front, after, size, -, -, opening, fragment⟩ := blamed
  have shape := Opening.read_shape after
  rw [opening] at shape
  obtain ⟨inner, rest, rfl, -, rfl⟩ := shape
  rw [List.append_cons, List.take_left' (by simp)] at fragment
  have alone : Opening.read (inner ++ [.char '}']) = .malformed fault.defect (inner ++ [Symbol.char '}']).length := by
    rw [List.length_append, List.length_singleton, ← opening, List.append_cons inner _ rest]
    exact (Opening.read_append (by simp) rest).symm
  rw [fragment, parse_of_malformed alone, ← fragment]

/-- A fault stands where its position says, has the form of a substring or of a replacement of one
    occurrence, and is the fault of its fragment read by itself. So there is none in a text without a colon
    and without a slash. -/
theorem parse_fault {text : Text} {fault : Fault} (read : parse text = .error fault) :
    (text.drop fault.position).take fault.fragment.length = fault.fragment ∧ Text.IsFaultForm fault.fragment ∧
      parse fault.fragment = .error { fault with position := 0 } ∧ (.char ':' ∈ text ∨ .char '/' ∈ text) := by
  have blamed : FaultAt text 0 fault := (plain_of_malformed (parse_eq_error_iff.1 read)).1
  obtain ⟨front, name, form, payload, back, whole, place, named, own, refuses⟩ := blamed.fragment_eq
  have found : (text.drop fault.position).take fault.fragment.length = fault.fragment := by
    rw [place, Nat.zero_add, whole, List.drop_left, List.take_left]
  have form : Text.IsFaultForm fault.fragment := own ▸ refuses.isFaultForm named
  have inside : ∀ {s}, s ∈ fault.fragment → s ∈ text := by
    intro s member
    rw [whole]
    exact List.mem_append_right _ (List.mem_append_left _ member)
  exact ⟨found, form, parse_fragment blamed, form.colon_or_slash.imp inside inside⟩

/-- The fault at `z` stands in a body inside another one, behind a `$` that begins no expression and one that
    is escaped. -/
theorem parse_fault_in_defaults :
    let fragment := Text.braced (Text.ofString "z/#$p:")
    let text := Text.ofString "$\x7b" ++ Text.braced (Text.ofString "x=b" ++ Text.braced (Text.ofString "y:=\\$" ++ fragment))
    let fault : Fault := ⟨.missingReplacement, fragment, 14⟩
    parse text = .error fault ∧
      (text.drop fault.position).take fault.fragment.length = fault.fragment ∧ Text.IsFaultForm fault.fragment ∧
        parse fault.fragment = .error { fault with position := 0 } ∧ (.char ':' ∈ text ∨ .char '/' ∈ text) := by
  intro fragment text fault
  have read : parse text = .error fault := rfl
  exact ⟨read, parse_fault read⟩

end Template

end ShellTemplate
