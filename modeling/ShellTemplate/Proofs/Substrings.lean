import ShellTemplate.Proofs.FaultFragments
import ShellTemplate.Proofs.Numbers
import ShellTemplate.Template.Operation

/-!
# Substrings

The payload of a substring is an offset up to its first colon and a length behind it. The numbers decide
alone what the expression is read to (`parse_substring`). What is taken from a value begins where the offset lies,
and parts of which one begins where the other ends are together one part (`apply_substring_tiles`).
-/

namespace ShellTemplate

namespace Text

/-- The part of a text up to its first colon, or all of it. -/
def beforeColon (text : Text) : Text :=
  text.takeWhile (· ≠ .char ':')

/-- The part of a text behind its first colon. -/
def behindColon (text : Text) : Text :=
  (text.dropWhile (· ≠ .char ':')).drop 1

theorem cut?_colon (text : Text) :
    text.cut? [.char ':'] = if .char ':' ∈ text then some (text.beforeColon, text.behindColon) else none := by
  induction text with
  | nil => rfl
  | cons s rest ih =>
    rw [cut?_cons_symbol]
    by_cases colon : s = .char ':'
    · simp [colon, beforeColon, behindColon]
    · rw [if_neg colon, ih]
      simp [colon, Ne.symm colon, beforeColon, behindColon, apply_ite]

theorem beforeColon_of_not_mem {text : Text} (absent : .char ':' ∉ text) : text.beforeColon = text := by
  have passed : ∀ s ∈ text, decide (s ≠ .char ':') = true := by
    intro s member
    rw [decide_eq_true_eq]
    rintro rfl
    exact absent member
  rw [beforeColon, ← List.append_nil text, List.takeWhile_append_of_pos passed, List.takeWhile_nil]

/-- A text that is no number is not read as one. -/
theorem toInt?_eq_none_of {text : Text} (other : ¬ ∃ n, text.IsNumber n) : text.toInt? = none := by
  cases read : text.toInt? with
  | none => rfl
  | some n => exact absurd ⟨n, toInt?_eq_some_iff.1 read⟩ other

end Text

/-! ## What is read -/

namespace PayloadForm

section
variable {payload : Text}

theorem readSubstring_invalid_offset (other : ¬ ∃ i, payload.beforeColon.IsNumber i) :
    readSubstring payload = .error (.invalidOffset payload.beforeColon) := by
  have unread := Text.toInt?_eq_none_of other
  rw [readSubstring, Text.cut?_colon]
  by_cases colon : .char ':' ∈ payload
  · simp [colon, unread]
  · rw [Text.beforeColon_of_not_mem colon] at unread ⊢
    simp [colon, unread]

variable {i : Int} (offset : payload.beforeColon.IsNumber i)
include offset

theorem readSubstring_offset (absent : .char ':' ∉ payload) : readSubstring payload = .ok (.substring i none) := by
  have read := Text.toInt?_eq_some_iff.2 offset
  rw [Text.beforeColon_of_not_mem absent] at read
  rw [readSubstring, Text.cut?_colon]
  simp [absent, read]

theorem readSubstring_invalid_length (colon : .char ':' ∈ payload) (other : ¬ ∃ n, payload.behindColon.IsNumber n) :
    readSubstring payload = .error (.invalidLength payload.behindColon) := by
  rw [readSubstring, Text.cut?_colon]
  simp [colon, Text.toInt?_eq_some_iff.2 offset, Text.toInt?_eq_none_of other]

theorem readSubstring_length (colon : .char ':' ∈ payload) {n : Int} (length : payload.behindColon.IsNumber n) :
    readSubstring payload =
      if n < 0 then .error (.negativeLength payload.behindColon) else .ok (.substring i (some n)) := by
  rw [readSubstring, Text.cut?_colon]
  simp [colon, Text.toInt?_eq_some_iff.2 offset, Text.toInt?_eq_some_iff.2 length]

end

end PayloadForm

namespace Template

/-- A text that is one expression without a body is read to it. -/
theorem parse_of_complete {after name : Text} {operator : Operator}
    (opening : Opening.read after = .complete name operator after.length) :
    parse (.char '$' :: after) = .ok [.expression name operator] := by
  have found : Plain.attempt maxNesting 0 after = .found (.expression name operator) after.length [0] :=
    Plain.attempt_complete opening
  have closed : ∃ stop, Plain.scanAll maxNesting (.char '$' :: after) =
      .closed [.expression (.expression name operator) (after.length + 1) [0]] stop := by
    rw [Plain.scanAll, Plain.scan_found found (Nat.le_refl _), List.drop_length, Plain.scan_nil]
    exact ⟨_, rfl⟩
  obtain ⟨stop, closed⟩ := closed
  exact parse_eq_ok_iff.2 ⟨_, stop, closed, rfl⟩

/-- An operator given by a payload is read as what the payload says, or has its defect. -/
theorem parse_form {name payload : Text} {form : PayloadForm} (named : name.isName) (clean : .char '}' ∉ payload)
    (settled : (Sigil.payload form).isSettledBy (payload ++ [.char '}'])) :
    (∀ operator, form.operator payload = .ok operator →
      parse (Text.braced (name ++ (Sigil.payload form).text ++ payload)) = .ok [.expression name operator]) ∧
    ∀ defect, form.operator payload = .error defect →
      parse (Text.braced (name ++ (Sigil.payload form).text ++ payload)) =
        .error ⟨defect, Text.braced (name ++ (Sigil.payload form).text ++ payload), 0⟩ := by
  obtain ⟨accepted, refused⟩ := Opening.read_form [] named clean settled
  have text : Text.braced (name ++ (Sigil.payload form).text ++ payload) =
      .char '$' :: (.char '{' :: name ++ ((Sigil.payload form).text ++ payload) ++ [.char '}']) := by
    simp [Text.braced]
  have size : name.length + ((Sigil.payload form).text ++ payload).length + 2 =
      (Symbol.char '{' :: name ++ ((Sigil.payload form).text ++ payload) ++ [Symbol.char '}']).length := by
    simp only [List.length_append, List.length_cons, List.length_nil]
    omega
  rw [size] at accepted refused
  rw [text]
  exact ⟨fun operator read => parse_of_complete (accepted operator read),
    fun defect read => parse_of_malformed (refused defect read)⟩

/-- Whether reading a text fails at the whole of it, for a reason. -/
def FailsFor (text reason : Text) : Prop :=
  ∃ defect, parse text = .error ⟨defect, text, 0⟩ ∧ defect.reason = reason

/-- A substring is read if its offset is a number, and its length one that is not negative if there is a length. Else
    reading fails for the first of these conditions that is not met. -/
theorem parse_substring {name payload : Text} (named : name.isName) (clean : .char '}' ∉ payload)
    (single : payload.head? ≠ some (.char '=')) :
    let text := Text.braced (name ++ Text.ofString ":" ++ payload)
    let offset := payload.beforeColon
    let length := payload.behindColon
    ((¬ ∃ i, offset.IsNumber i) →
      FailsFor text (Text.ofString "invalid substring offset `" ++ offset ++ Text.ofString "'")) ∧
    ∀ i, offset.IsNumber i →
      (.char ':' ∉ payload → parse text = .ok [.expression name (.substring i none)]) ∧
      (.char ':' ∈ payload →
        ((¬ ∃ n, length.IsNumber n) →
          FailsFor text (Text.ofString "invalid substring length `" ++ length ++ Text.ofString "'")) ∧
        ∀ n, length.IsNumber n →
          (n < 0 → FailsFor text (Text.ofString "substring length `" ++ length ++ Text.ofString "' is negative")) ∧
          (0 ≤ n → parse text = .ok [.expression name (.substring i (some n))])) := by
  intro text offset length
  have settled : (Sigil.payload .substring).isSettledBy (payload ++ [.char '}']) = true := by
    cases payload with
    | nil => rfl
    | cons s rest => simpa [Sigil.isSettledBy] using single
  obtain ⟨accepted, refused⟩ := @parse_form name payload .substring named clean settled
  refine ⟨?_, fun i number => ⟨?_, fun colon => ⟨?_, fun n count => ⟨?_, ?_⟩⟩⟩⟩
  · intro other
    exact ⟨_, refused _ (PayloadForm.readSubstring_invalid_offset other), rfl⟩
  · intro absent
    exact accepted _ (PayloadForm.readSubstring_offset number absent)
  · intro other
    exact ⟨_, refused _ (PayloadForm.readSubstring_invalid_length number colon other), rfl⟩
  · intro negative
    have read := PayloadForm.readSubstring_length number colon count
    rw [if_pos negative] at read
    exact ⟨_, refused _ read, rfl⟩
  · intro positive
    have read := PayloadForm.readSubstring_length number colon count
    rw [if_neg (Int.not_lt.2 positive)] at read
    exact accepted _ read

/-- Blanks, signs and leading zeros belong to numbers. -/
theorem parse_substring_between_blanks :
    let name := Text.ofString "x"
    let payload := Text.ofString " -07:\t+2 "
    name.isName = true ∧ .char '}' ∉ payload ∧ payload.head? ≠ some (.char '=') ∧
      parse (Text.braced (name ++ Text.ofString ":" ++ payload)) = .ok [.expression name (.substring (-7) (some 2))] := by
  intro name payload
  have named : name.isName = true := by decide
  have clean : .char '}' ∉ payload := by decide
  have single : payload.head? ≠ some (.char '=') := by decide
  have offset : payload.beforeColon.IsNumber (-7) :=
    ⟨Text.ofString " ", Text.ofString "-07", [], rfl, by decide, Text.ofString "-", ['0', '7'], rfl, by simp, by decide,
      by decide, .inr ⟨rfl, by decide⟩⟩
  have length : payload.behindColon.IsNumber 2 :=
    ⟨Text.ofString "\t", Text.ofString "+2", Text.ofString " ", rfl, by decide, Text.ofString "+", ['2'], rfl, by simp,
      by decide, by decide, .inl ⟨.inr rfl, by decide⟩⟩
  have read := (((parse_substring named clean single).2 _ offset).2 (by decide)).2 _ length
  exact ⟨named, clean, single, read.2 (by decide)⟩

end Template

/-! ## What is taken -/

namespace Text

/-- Where an offset lies from the beginning of a text on. A negative one counts from the end, but not to before the
    beginning. -/
def place (text : Text) (offset : Int) : Int :=
  if 0 ≤ offset then offset else max (text.length + offset) 0

theorem place_nonneg (text : Text) (offset : Int) : 0 ≤ text.place offset := by
  unfold place
  split <;> omega

/-- What is no negative offset lies where it says. -/
theorem place_place_add (text : Text) (offset : Int) (n : Nat) :
    text.place (text.place offset + n) = text.place offset + n := by
  have positive := text.place_nonneg offset
  exact if_pos (by omega)

section
variable (value : Text) (offset : Int)

/-- Where a part ends that begins at an offset inside the value. -/
def stop (length : Int) : Int :=
  min (value.place offset + length) value.length

/-- Nothing is taken from behind a value. -/
theorem slice_of_le (outside : (value.length : Int) ≤ value.place offset) (length : Option Int) : value.slice offset length = [] :=
  if_pos outside

/-- Where the end of a part comes before the beginning of the value, it counts from the end of it. -/
theorem slice_of_lt {value : Text} {offset : Int} (inside : value.place offset < value.length) (length : Int) :
    value.slice offset (some length) =
      (value.take (if value.stop offset length < 0 then value.length + value.stop offset length
        else value.stop offset length).toNat).drop (value.place offset).toNat := by
  have taken : value.slice offset (some length) =
      (value.take (if value.stop offset length < 0 then max (value.length + value.stop offset length) 0
        else value.stop offset length).toNat).drop (value.place offset).toNat := if_neg (Int.not_le.2 inside)
  have clamped : (if value.stop offset length < 0 then max (value.length + value.stop offset length) 0
      else value.stop offset length).toNat =
        (if value.stop offset length < 0 then value.length + value.stop offset length
          else value.stop offset length).toNat := by
    split <;> omega
  rw [taken, clamped]

/-- Without a length everything behind the offset is taken. -/
theorem slice_none : value.slice offset none = value.drop (value.place offset).toNat := by
  by_cases inside : value.place offset < value.length
  · have taken : value.slice offset none = (value.take (if (value.length : Int) < 0 then max (value.length + value.length : Int) 0
        else value.length).toNat).drop (value.place offset).toNat := if_neg (Int.not_le.2 inside)
    rw [taken, if_neg (by omega), Int.toNat_natCast, List.take_length]
  · rw [slice_of_le value offset (Int.not_lt.1 inside), List.drop_eq_nil_of_le (by omega)]

/-- With a length as many symbols are taken, as far as there are any. -/
theorem slice_some (n : Nat) : value.slice offset (some n) = (value.drop (value.place offset).toNat).take n := by
  have positive := value.place_nonneg offset
  by_cases inside : value.place offset < value.length
  · have after : ¬ value.stop offset n < 0 := by
      unfold stop
      omega
    rw [slice_of_lt inside, if_neg after, List.drop_take, List.take_eq_take_iff, List.length_drop]
    unfold stop
    omega
  · rw [slice_of_le value offset (Int.not_lt.1 inside), List.drop_eq_nil_of_le (by omega), List.take_nil]

/-- Where the length is negative, nothing is taken unless the end counts from the end of the value. -/
theorem slice_of_neg {length : Int} (negative : length < 0) (kept : 0 ≤ value.stop offset length) :
    value.slice offset (some length) = [] := by
  have positive := value.place_nonneg offset
  by_cases inside : value.place offset < value.length
  · rw [slice_of_lt inside, if_neg (Int.not_lt.2 kept)]
    apply List.drop_eq_nil_of_le
    rw [List.length_take]
    unfold stop at kept ⊢
    omega
  · exact slice_of_le value offset (Int.not_lt.1 inside) _

/-- What is taken stands in the value as it is. -/
theorem slice_infix (length : Option Int) : value.slice offset length <:+: value := by
  cases length with
  | none =>
    rw [slice_none]
    exact (List.drop_suffix _ value).isInfix
  | some length =>
    by_cases inside : value.place offset < value.length
    · rw [slice_of_lt inside]
      exact (List.drop_suffix _ _).isInfix.trans (List.take_prefix _ value).isInfix
    · rw [slice_of_le value offset (Int.not_lt.1 inside)]
      exact List.nil_infix

end

end Text

/-- What is taken from a value begins at the place of the offset and has as many symbols as are asked for, as far as the
    value goes. To take more symbols is to go on where the first ones end, with a length and without. A negative
    length leaves a part at the end of the value out, if the end that it gives lies before the value, and nothing to
    take otherwise. -/
theorem Operator.apply_substring_tiles (value : Text) (offset : Int) (m n : Nat) :
    let taken (offset : Int) (length : Option Int) : Text := (Operator.substring offset length).apply value
    let start : Int := if 0 ≤ offset then offset else max (value.length + offset) 0
    (taken offset (some n)).length = min (n : Int) (max (value.length - start) 0) ∧
      taken offset (some n) = (value.drop start.toNat).take n ∧
      taken offset (some (m + n)) = taken offset (some m) ++ taken (start + m) (some n) ∧
      taken offset none = taken offset (some n) ++ taken (start + n) none ∧
      ∀ length < 0,
        let stop : Int := min (start + length) value.length
        (value.length ≤ start ∨ 0 ≤ stop → taken offset (some length) = []) ∧
        (start < value.length → stop < 0 →
          taken offset (some length) = (value.take (value.length + stop).toNat).drop start.toNat) ∧
        taken offset (some length) <:+: value := by
  intro taken start
  have taken_eq : ∀ offset length, taken offset length = value.slice offset length := fun _ _ => rfl
  have start_eq : start = value.place offset := rfl
  clear_value taken start
  subst start_eq
  have positive := value.place_nonneg offset
  have further : ∀ n : Nat, (value.place (value.place offset + n)).toNat = (value.place offset).toNat + n := by
    intro n
    rw [value.place_place_add]
    omega
  simp only [taken_eq]
  refine ⟨?_, value.slice_some offset n, ?_, ?_, ?_⟩
  · rw [value.slice_some, List.length_take, List.length_drop]
    omega
  · rw [← Int.natCast_add, value.slice_some, value.slice_some, value.slice_some, further, ← List.drop_drop, List.take_add]
  · rw [value.slice_none, value.slice_none, value.slice_some, further, ← List.drop_drop, List.take_append_drop]
  · intro length negative
    refine ⟨?_, ?_, value.slice_infix offset _⟩
    · rintro (outside | kept)
      · exact value.slice_of_le offset outside _
      · exact value.slice_of_neg offset negative kept
    · intro inside before
      have cut := Text.slice_of_lt inside length
      rw [if_pos (show value.stop offset length < 0 from before)] at cut
      exact cut

example : (Operator.substring 1 (some (-3))).apply (Text.ofString "abcd") = Text.ofString "b" := by decide

end ShellTemplate
