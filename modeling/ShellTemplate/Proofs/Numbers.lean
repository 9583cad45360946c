import ShellTemplate.Template.Canonical

/-!
# Numbers in payloads

A number is an optional sign and some digits between blanks (`toInt?_eq_some_iff`). It has no more digits than
may be read, and every such number is read back from its decimal text.
-/

namespace ShellTemplate

theorem Symbol.digit?_lt {s : Symbol} {d : Nat} (digit : s.digit? = some d) : d < 10 := by
  cases s with
  | char c =>
    simp only [digit?, Option.ite_none_right_eq_some, Option.some.injEq] at digit
    obtain ⟨isDigit, rfl⟩ := digit
    have top : '9'.toNat = 57 := rfl
    have bounds := (Char.isDigit_iff_toNat.1 isDigit).2
    omega
  | stray low => cases digit

namespace Text

theorem digitsFrom_lt {text : Text} {n value : Nat} (digits : digitsFrom n text = some value) :
    value < (n + 1) * Nat.pow 10 text.length := by
  induction text generalizing n with
  | nil =>
    cases digits
    simp
  | cons s rest ih =>
    rw [digitsFrom] at digits
    split at digits
    · rename_i d digit
      have small := Symbol.digit?_lt digit
      calc
        value < (10 * n + d + 1) * Nat.pow 10 rest.length := ih digits
        _ ≤ ((n + 1) * 10) * Nat.pow 10 rest.length := Nat.mul_le_mul_right _ (by omega)
        _ = (n + 1) * (Nat.pow 10 rest.length * 10) := by rw [Nat.mul_assoc, Nat.mul_comm 10]
        _ = (n + 1) * Nat.pow 10 (s :: rest).length := rfl
    · cases digits

theorem toNat?_lt {text : Text} {n : Nat} (number : text.toNat? = some n) : n < Nat.pow 10 maxDigits := by
  unfold toNat? at number
  split at number
  · cases number
  · rename_i fits
    simp only [Bool.or_eq_true, decide_eq_true_eq, not_or, Nat.not_lt] at fits
    have bound := digitsFrom_lt number
    rw [Nat.zero_add, Nat.one_mul] at bound
    have under : ∀ most, text.length ≤ most → n < Nat.pow 10 most := fun most short =>
      Nat.lt_of_lt_of_le bound (Nat.pow_le_pow_right (by omega) short)
    exact under maxDigits fits.2

theorem ofNat_eq (n : Nat) : ofNat n = (Nat.toDigits 10 n).map .char := by
  rw [ofNat, ofString, show toString n = n.repr from rfl, Nat.toList_repr]

theorem isDigit_of_mem_ofNat {n : Nat} {s : Symbol} (member : s ∈ ofNat n) :
    ∃ c, s = .char c ∧ c.isDigit = true := by
  rw [ofNat_eq, List.mem_map] at member
  obtain ⟨c, member, rfl⟩ := member
  exact ⟨c, rfl, Nat.isDigit_of_mem_toDigits (by omega) (by omega) member⟩

theorem ofNat_ne_nil (n : Nat) : ofNat n ≠ [] := by
  rw [ofNat_eq]
  simp [Nat.toDigits_ne_nil]

end Text

theorem Symbol.isBlank_of_isDigit {c : Char} (digit : c.isDigit = true) : (Symbol.char c).isBlank = false := by
  have digits : ∀ n < 58, 48 ≤ n → CodeSet.blanks.contains n = false := by decide
  have bounds := Char.isDigit_iff_toNat.1 digit
  exact digits c.toNat (Nat.lt_succ_of_le bounds.2) bounds.1

namespace Text

/-! ### What a number is -/

/-- Whether a text is an optional sign and 1 to 4300 ASCII digits, of the value `n`. -/
def IsInteger (text : Text) (n : Int) : Prop :=
  ∃ (sign : Text) (digits : List Char), text = sign ++ digits.map .char ∧ (∀ c ∈ digits, c.isDigit = true) ∧
    1 ≤ digits.length ∧ digits.length ≤ 4300 ∧
      ((sign = [] ∨ sign = ofString "+") ∧ n = Nat.ofDigitChars 10 digits 0 ∨
        sign = ofString "-" ∧ n = -Nat.ofDigitChars 10 digits 0)

/-- Whether a text is the integer `n` with nothing but blanks around it. -/
def IsNumber (text : Text) (n : Int) : Prop :=
  ∃ left core right : Text, text = left ++ core ++ right ∧ (∀ s ∈ left ++ right, s.isBlank = true) ∧ core.IsInteger n

theorem digitsFrom_eq_some_iff {text : Text} {n value : Nat} :
    digitsFrom n text = some value ↔ ∃ digits : List Char, text = digits.map .char ∧ (∀ c ∈ digits, c.isDigit = true) ∧
      value = Nat.ofDigitChars 10 digits n := by
  constructor
  · intro read
    induction text generalizing n with
    | nil =>
      cases read
      exact ⟨[], rfl, by simp, rfl⟩
    | cons s rest ih =>
      rw [digitsFrom] at read
      split at read
      · rename_i d digit
        obtain ⟨digits, rfl, all, rfl⟩ := ih read
        cases s with
        | stray low => cases digit
        | char c =>
          simp only [Symbol.digit?, Option.ite_none_right_eq_some, Option.some.injEq] at digit
          obtain ⟨own, rfl⟩ := digit
          exact ⟨c :: digits, rfl, by simpa using ⟨own, all⟩, by rw [Nat.ofDigitChars_cons]; rfl⟩
      · cases read
  · rintro ⟨digits, rfl, all, rfl⟩
    induction digits generalizing n with
    | nil => rfl
    | cons c rest ih =>
      obtain ⟨own, others⟩ := List.forall_mem_cons.1 all
      rw [List.map_cons, digitsFrom, Nat.ofDigitChars_cons, ← ih others]
      simp [Symbol.digit?, own]

theorem toNat?_eq_some_iff {text : Text} {value : Nat} :
    text.toNat? = some value ↔ ∃ digits : List Char, text = digits.map .char ∧ (∀ c ∈ digits, c.isDigit = true) ∧
      1 ≤ digits.length ∧ digits.length ≤ 4300 ∧ value = Nat.ofDigitChars 10 digits 0 := by
  have bound : maxDigits = 4300 := rfl
  unfold toNat?
  rw [Option.ite_none_left_eq_some, digitsFrom_eq_some_iff, bound]
  simp only [Bool.or_eq_true, List.isEmpty_iff_length_eq_zero, decide_eq_true_eq, not_or]
  constructor
  · rintro ⟨⟨some_, few⟩, digits, rfl, all, rfl⟩
    rw [List.length_map] at some_ few
    exact ⟨digits, rfl, all, Nat.pos_of_ne_zero some_, Nat.not_lt.1 few, rfl⟩
  · rintro ⟨digits, rfl, all, some_, few, rfl⟩
    rw [List.length_map]
    exact ⟨⟨Nat.ne_of_gt some_, Nat.not_lt.2 few⟩, digits, rfl, all, rfl⟩

/-- A text that begins with no sign is read as its digits. -/
theorem signedToInt?_of_no_sign {text : Text} (minus : text.head? ≠ some (.char '-')) (plus : text.head? ≠ some (.char '+')) :
    text.signedToInt? = text.toNat?.map fun n => (n : Int) := by
  unfold signedToInt?
  split
  · simp at minus
  · simp at plus
  · rfl

theorem head?_map_char_ne {digits : List Char} (all : ∀ c ∈ digits, c.isDigit = true) {c : Char} (other : c.isDigit = false) :
    (digits.map Symbol.char).head? ≠ some (.char c) := by
  cases digits with
  | nil => simp
  | cons d rest =>
    intro same
    cases same
    rw [all _ List.mem_cons_self] at other
    cases other

theorem signedToInt?_eq_some_iff {text : Text} {n : Int} : text.signedToInt? = some n ↔ text.IsInteger n := by
  constructor
  · intro read
    unfold signedToInt? at read
    split at read <;> obtain ⟨_, lifted, rfl⟩ := Option.map_eq_some_iff.1 read <;>
      obtain ⟨value, natural, ⟨⟩⟩ := Option.bind_eq_some_iff.1 lifted <;>
      obtain ⟨digits, rfl, all, some_, few, rfl⟩ := toNat?_eq_some_iff.1 natural
    · exact ⟨ofString "-", digits, rfl, all, some_, few, .inr ⟨rfl, rfl⟩⟩
    · exact ⟨ofString "+", digits, rfl, all, some_, few, .inl ⟨.inr rfl, rfl⟩⟩
    · exact ⟨[], digits, rfl, all, some_, few, .inl ⟨.inl rfl, rfl⟩⟩
  · rintro ⟨sign, digits, rfl, all, some_, few, signed⟩
    have read := toNat?_eq_some_iff.2 ⟨digits, rfl, all, some_, few, rfl⟩
    rcases signed with ⟨rfl | rfl, rfl⟩ | ⟨rfl, rfl⟩
    · rw [List.nil_append, signedToInt?_of_no_sign (head?_map_char_ne all rfl) (head?_map_char_ne all rfl), read]
      rfl
    · show (toNat? (digits.map Symbol.char)).map (fun n => (n : Int)) = _
      rw [read]
      rfl
    · show (toNat? (digits.map Symbol.char)).map (fun n => -(n : Int)) = _
      rw [read]
      rfl

theorem IsInteger.not_blank {text : Text} {n : Int} (integer : text.IsInteger n) {s : Symbol} (member : s ∈ text) :
    s.isBlank = false := by
  obtain ⟨sign, digits, rfl, all, -, -, signed⟩ := integer
  rcases List.mem_append.1 member with before | digit
  · rcases signed with ⟨rfl | rfl, -⟩ | ⟨rfl, -⟩
    · cases before
    · cases List.mem_singleton.1 before
      rfl
    · cases List.mem_singleton.1 before
      rfl
  · obtain ⟨c, inside, rfl⟩ := List.mem_map.1 digit
    exact Symbol.isBlank_of_isDigit (all c inside)

/-- What is stripped from a text at its ends is blank. -/
theorem exists_strip (text : Text) :
    ∃ left right : Text, text = left ++ text.strip ++ right ∧ ∀ s ∈ left ++ right, s.isBlank = true := by
  let behind := text.dropWhile Symbol.isBlank
  refine ⟨text.takeWhile Symbol.isBlank, (behind.reverse.takeWhile Symbol.isBlank).reverse, ?_, ?_⟩
  · have rest : text.strip ++ (behind.reverse.takeWhile Symbol.isBlank).reverse = behind := by
      rw [strip, ← List.reverse_append, List.takeWhile_append_dropWhile, List.reverse_reverse]
    rw [List.append_assoc, rest, List.takeWhile_append_dropWhile]
  · intro s member
    rcases List.mem_append.1 member with front | back
    · exact List.all_eq_true.1 List.all_takeWhile s front
    · exact List.all_eq_true.1 List.all_takeWhile s (List.mem_reverse.1 back)

/-- A text without blanks is what is left when the blanks around it are stripped. -/
theorem strip_append {left core right : Text} (outside : ∀ s ∈ left ++ right, s.isBlank = true)
    (inside : ∀ s ∈ core, s.isBlank = false) : (left ++ core ++ right).strip = core := by
  have passed : ∀ {front back : Text}, (∀ s ∈ front, s.isBlank = true) → (∀ s ∈ back.head?, s.isBlank = false) →
      (front ++ back).dropWhile Symbol.isBlank = back := by
    intro front back blank stop
    rw [List.dropWhile_append_of_pos blank]
    cases back with
    | nil => rfl
    | cons s rest => exact List.dropWhile_cons_of_neg (by simp [stop s rfl])
  have front : ∀ s ∈ left, s.isBlank = true := fun s member => outside s (List.mem_append_left _ member)
  have back : ∀ s ∈ right, s.isBlank = true := fun s member => outside s (List.mem_append_right _ member)
  cases core with
  | nil =>
    have whole := @passed (left ++ right) [] outside (by simp)
    rw [List.append_nil] at whole
    rw [List.append_nil, strip, whole]
    rfl
  | cons s rest =>
    have own : ∀ t ∈ (s :: rest ++ right).head?, t.isBlank = false := by
      rintro t ⟨rfl⟩
      exact inside s List.mem_cons_self
    have last : ∀ t ∈ (s :: rest).reverse.head?, t.isBlank = false := fun t member =>
      inside t (List.mem_reverse.1 (List.mem_of_mem_head? member))
    rw [List.append_assoc, strip, passed front own, List.reverse_append, passed (by simpa using back) last, List.reverse_reverse]

/-- A text is read as a number if and only if it is one. -/
theorem toInt?_eq_some_iff {text : Text} {n : Int} : text.toInt? = some n ↔ text.IsNumber n := by
  rw [toInt?, signedToInt?_eq_some_iff]
  constructor
  · intro integer
    obtain ⟨left, right, split, blank⟩ := exists_strip text
    exact ⟨left, text.strip, right, split, blank, integer⟩
  · rintro ⟨left, core, right, rfl, blank, integer⟩
    rwa [strip_append blank fun s member => integer.not_blank member]

/-- A number that is read has no more digits than may be read. -/
theorem isReadable_of_toInt? {text : Text} {n : Int} (number : text.toInt? = some n) :
    Operator.isReadable n = true := by
  obtain ⟨left, core, right, -, -, sign, digits, -, all, some_, few, signed⟩ := toInt?_eq_some_iff.1 number
  have bound := toNat?_lt (toNat?_eq_some_iff.2 ⟨digits, rfl, all, some_, few, rfl⟩)
  have value : n.natAbs = Nat.ofDigitChars 10 digits 0 := by
    rcases signed with ⟨-, rfl⟩ | ⟨-, rfl⟩
    · rfl
    · exact Int.natAbs_neg _
  rwa [Operator.isReadable, value, decide_eq_true_eq]

/-- An integer with no more digits than may be read is read from its decimal text. -/
theorem toInt?_ofInt {n : Int} (readable : Operator.isReadable n = true) : (ofInt n).toInt? = some n := by
  rw [Operator.isReadable, decide_eq_true_eq] at readable
  have length : ∀ most m, 0 < most → m < Nat.pow 10 most → (Nat.toDigits 10 m).length ≤ most :=
    fun most m some_ small => (Nat.length_toDigits_le_iff (by omega) some_).2 small
  have digits : ∀ m, m < Nat.pow 10 maxDigits → (∀ c ∈ Nat.toDigits 10 m, c.isDigit = true) ∧
      1 ≤ (Nat.toDigits 10 m).length ∧ (Nat.toDigits 10 m).length ≤ 4300 ∧ Nat.ofDigitChars 10 (Nat.toDigits 10 m) 0 = m :=
    fun m small => ⟨fun c => Nat.isDigit_of_mem_toDigits (by omega) (by omega), List.length_pos_iff.2 Nat.toDigits_ne_nil,
      length maxDigits m (by decide) small, Nat.ofDigitChars_ten_toDigits⟩
  have alone : (ofInt n).IsInteger n := by
    cases n with
    | ofNat m =>
      obtain ⟨all, some_, few, value⟩ := digits m readable
      exact ⟨[], _, ofNat_eq m, all, some_, few, .inl ⟨.inl rfl, by rw [value]; rfl⟩⟩
    | negSucc m =>
      obtain ⟨all, some_, few, value⟩ := digits (m + 1) readable
      exact ⟨ofString "-", _, congrArg (Symbol.char '-' :: ·) (ofNat_eq (m + 1)), all, some_, few, .inr ⟨rfl, by rw [value]; rfl⟩⟩
  exact toInt?_eq_some_iff.2 ⟨[], ofInt n, [], by simp, by simp, alone⟩

end Text

end ShellTemplate
