import ShellTemplate.Template.Printer
import ShellTemplate.Text.Utf8

/-!
# Decoding bytes

A byte string is read one character or one stray byte at a time, so encoding what was read gives it back. A byte
below 128 is a character by itself wherever it stands, and no other byte is read differently for what stands
in its place.
-/

namespace ShellTemplate

/-! ## The bytes of a character -/

theorem toNat_charOfByte {b : UInt8} (low : b.toNat < 128) : (Char.ofNat b.toNat).toNat = b.toNat := by
  have valid : b.toNat.isValidChar := Or.inl (by omega)
  rw [Char.ofNat, dif_pos valid]
  rfl

theorem utf8EncodeChar_charOfByte {b : UInt8} (low : b.toNat < 128) : String.utf8EncodeChar (Char.ofNat b.toNat) = [b] := by
  have code : (Char.ofNat b.toNat).val.toNat = b.toNat := Char.toNat_val.trans (toNat_charOfByte low)
  simp [String.utf8EncodeChar, code]
  omega

/-- A character is the one of a byte below 128, or all of its bytes are above. -/
theorem low_or_high (c : Char) :
    (∃ b : UInt8, b.toNat < 128 ∧ c = Char.ofNat b.toNat) ∨ ∀ b ∈ String.utf8EncodeChar c, 128 ≤ b.toNat := by
  by_cases low : c.toNat < 128
  · left
    have same : (UInt8.ofNat c.toNat).toNat = c.toNat := by simp; omega
    exact ⟨UInt8.ofNat c.toNat, by omega, by rw [same, Char.ofNat_toNat]⟩
  · right
    intro b member
    have more : ¬ c.val.toNat ≤ 127 := by
      rw [Char.toNat_val]
      omega
    simp only [String.utf8EncodeChar, if_neg more] at member
    split at member
    · simp only [List.mem_cons, List.not_mem_nil, or_false] at member
      rcases member with rfl | rfl <;> simp <;> omega
    · split at member
      · simp only [List.mem_cons, List.not_mem_nil, or_false] at member
        rcases member with rfl | rfl | rfl <;> simp <;> omega
      · simp only [List.mem_cons, List.not_mem_nil, or_false] at member
        rcases member with rfl | rfl | rfl | rfl <;> simp <;> omega

theorem not_mem_utf8EncodeChar {b : UInt8} (low : b.toNat < 128) {c : Char} (other : c ≠ Char.ofNat b.toNat) :
    b ∉ String.utf8EncodeChar c := by
  intro member
  rcases low_or_high c with ⟨own, small, rfl⟩ | high
  · rw [utf8EncodeChar_charOfByte small] at member
    exact other (by rw [List.mem_singleton.1 member])
  · have wide := high b member
    omega

namespace Text

theorem leadingChar?_eq_some_iff {bytes : Bytes} {c : Char} :
    leadingChar? bytes = some c ↔ ∃ rest, bytes = String.utf8EncodeChar c ++ rest := by
  have short : (String.utf8EncodeChar c).length ≤ 4 := by
    rw [String.length_utf8EncodeChar]
    exact c.utf8Size_le_four
  constructor
  · intro found
    obtain ⟨more, split⟩ := ByteArray.exists_of_utf8DecodeChar?_eq_some found
    have front : bytes.take 4 = String.utf8EncodeChar c ++ more.data.toList := by
      simpa using congrArg (fun array => array.data.toList) split
    refine ⟨more.data.toList ++ bytes.drop 4, ?_⟩
    rw [← List.append_assoc, ← front, List.take_append_drop]
  · rintro ⟨rest, rfl⟩
    rw [leadingChar?, List.take_append, List.take_of_length_le short, List.toByteArray_append]
    exact ByteArray.utf8DecodeChar?_utf8EncodeChar_append

theorem leadingChar?_low {b : UInt8} (low : b.toNat < 128) (rest : Bytes) :
    leadingChar? (b :: rest) = some (Char.ofNat b.toNat) := by
  refine leadingChar?_eq_some_iff.2 ⟨rest, ?_⟩
  rw [utf8EncodeChar_charOfByte low]
  rfl

theorem high_of_stray {b : UInt8} {rest : Bytes} (stray : leadingChar? (b :: rest) = none) : 128 ≤ b.toNat := by
  by_cases low : b.toNat < 128
  · rw [leadingChar?_low low] at stray
    cases stray
  · omega

/-! ## One step of decoding -/

theorem decodeOnto_skip (done : Text) (front rest : Bytes) :
    decodeOnto done front.length (front ++ rest) = decodeOnto done 0 rest := by
  induction front with
  | nil => rfl
  | cons b front ih => exact ih

theorem decode_char (c : Char) (rest : Bytes) : decode (String.utf8EncodeChar c ++ rest) = .char c :: decode rest := by
  have found : leadingChar? (String.utf8EncodeChar c ++ rest) = some c := leadingChar?_eq_some_iff.2 ⟨rest, rfl⟩
  have size : (String.utf8EncodeChar c).length = c.utf8Size := String.length_utf8EncodeChar c
  unfold decode
  cases bytes : String.utf8EncodeChar c with
  | nil => exact absurd bytes String.utf8EncodeChar_ne_nil
  | cons b more =>
    rw [bytes] at found size
    have skip : c.utf8Size - 1 = more.length := by
      rw [← size, List.length_cons, Nat.add_sub_cancel]
    rw [List.cons_append, decodeOnto, ← List.cons_append, found]
    simp only [skip]
    rw [decodeOnto_skip, decodeOnto_eq]
    rfl

theorem decode_low {b : UInt8} (low : b.toNat < 128) (rest : Bytes) :
    decode (b :: rest) = .char (Char.ofNat b.toNat) :: decode rest := by
  rw [← decode_char, utf8EncodeChar_charOfByte low]
  rfl

theorem decode_stray {b : UInt8} {rest : Bytes} (stray : leadingChar? (b :: rest) = none) :
    decode (b :: rest) = .ofStrayByte b :: decode rest := by
  unfold decode
  rw [decodeOnto, stray, decodeOnto_eq]
  rfl

/-- Induction along a byte string as it is decoded. -/
theorem decodeInduction {P : Bytes → Prop} (ended : P []) (char : ∀ c rest, P rest → P (String.utf8EncodeChar c ++ rest))
    (stray : ∀ b rest, leadingChar? (b :: rest) = none → P rest → P (b :: rest)) (bytes : Bytes) : P bytes := by
  have bounded : ∀ size (bytes : Bytes), bytes.length ≤ size → P bytes := by
    intro size
    induction size with
    | zero =>
      intro bytes short
      rw [List.eq_nil_of_length_eq_zero (Nat.le_zero.1 short)]
      exact ended
    | succ size ih =>
      intro bytes short
      cases bytes with
      | nil => exact ended
      | cons b rest =>
        cases leading : leadingChar? (b :: rest) with
        | none => exact stray b rest leading (ih rest (Nat.le_of_succ_le_succ short))
        | some c =>
          obtain ⟨more, split⟩ := leadingChar?_eq_some_iff.1 leading
          have lengths := congrArg List.length split
          have positive := c.utf8Size_pos
          rw [List.length_append, String.length_utf8EncodeChar] at lengths
          rw [split]
          exact char c more (ih more (by omega))
  exact bounded _ bytes (Nat.le_refl _)

/-! ## Encoding what was decoded -/

theorem encode_ofStrayByte {b : UInt8} (high : 128 ≤ b.toNat) : (Symbol.ofStrayByte b).encode = [b] := by
  have size := b.toNat_lt
  have same : 0x80 + b.toNat % 128 = b.toNat := by omega
  simp [Symbol.ofStrayByte, Symbol.encode, same]

/-- No byte string is changed by decoding and encoding it. -/
theorem encode_decode (bytes : Bytes) : (decode bytes).encode = bytes := by
  induction bytes using decodeInduction with
  | ended => rfl
  | char c rest ih =>
    rw [decode_char, encode, List.flatMap_cons, ← encode, ih]
    rfl
  | stray b rest stray ih =>
    rw [decode_stray stray, encode, List.flatMap_cons, ← encode, ih, encode_ofStrayByte (high_of_stray stray)]
    rfl

/-- Text without stray bytes is decoded from its bytes, whatever comes after them. -/
theorem decode_encode_append {text : Text} (strict : text.isStrict = true) (rest : Bytes) :
    decode (text.encode ++ rest) = text ++ decode rest := by
  induction text with
  | nil => rfl
  | cons s text ih =>
    rw [isStrict, List.all_cons, Bool.and_eq_true] at strict
    cases s with
    | stray low => cases strict.1
    | char c =>
      rw [encode, List.flatMap_cons, ← encode, List.append_assoc, Symbol.encode, decode_char, ih strict.2]
      rfl

/-! ## Changes to bytes below 128 -/

/-- Whether a byte is part of no character below 128. -/
def isHigh (b : UInt8) : Bool :=
  128 ≤ b.toNat

/-- A stray byte stays stray, if nothing is changed up to the next byte below 128. -/
theorem stray_of_takeWhile {b : UInt8} {rest other : Bytes} (stray : leadingChar? (b :: rest) = none)
    (same : other.takeWhile isHigh = rest.takeWhile isHigh) : leadingChar? (b :: other) = none := by
  cases found : leadingChar? (b :: other) with
  | none => rfl
  | some c =>
    have high := high_of_stray stray
    obtain ⟨more, split⟩ := leadingChar?_eq_some_iff.1 found
    rcases low_or_high c with ⟨low, small, rfl⟩ | wide
    · rw [utf8EncodeChar_charOfByte small] at split
      cases split
      omega
    · cases bytes : String.utf8EncodeChar c with
      | nil => exact absurd bytes String.utf8EncodeChar_ne_nil
      | cons first front =>
        rw [bytes] at split wide
        rw [List.cons_append] at split
        obtain ⟨rfl, rfl⟩ := List.cons.inj split
        have within : ∀ a ∈ front, isHigh a = true := by
          intro a member
          exact decide_eq_true (wide a (List.mem_cons_of_mem _ member))
        rw [List.takeWhile_append_of_pos within] at same
        have again : leadingChar? (b :: rest) = some c := by
          refine leadingChar?_eq_some_iff.2 ⟨more.takeWhile isHigh ++ rest.dropWhile isHigh, ?_⟩
          rw [bytes, List.cons_append, ← List.append_assoc, same, List.takeWhile_append_dropWhile]
        rw [stray] at again
        cases again

/-- An edit of byte strings and one of texts that change nothing but one byte below 128, and that agree on it. -/
structure EditsAt (special : UInt8) (onBytes : Bytes → Bytes) (onText : Text → Text) : Prop where
  low : special.toNat < 128
  nil_bytes : onBytes [] = []
  nil_text : onText [] = []
  other_byte : ∀ b rest, b ≠ special → onBytes (b :: rest) = b :: onBytes rest
  other_symbol : ∀ s rest, s ≠ .char (Char.ofNat special.toNat) → onText (s :: rest) = s :: onText rest
  ends : ∀ rest, (onBytes (special :: rest)).takeWhile isHigh = []
  agree : ∀ rest, decode (onBytes rest) = onText (decode rest) →
    decode (onBytes (special :: rest)) = onText (.char (Char.ofNat special.toNat) :: decode rest)

namespace EditsAt
variable {special : UInt8} {onBytes : Bytes → Bytes} {onText : Text → Text} (edits : EditsAt special onBytes onText)
include edits

theorem append_of_not_mem {front : Bytes} (plain : special ∉ front) (rest : Bytes) :
    onBytes (front ++ rest) = front ++ onBytes rest := by
  induction front with
  | nil => rfl
  | cons b front ih =>
    rw [List.mem_cons, not_or] at plain
    rw [List.cons_append, edits.other_byte _ _ (Ne.symm plain.1), ih plain.2, List.cons_append]

theorem takeWhile_isHigh (bytes : Bytes) : (onBytes bytes).takeWhile isHigh = bytes.takeWhile isHigh := by
  induction bytes with
  | nil => rw [edits.nil_bytes]
  | cons b rest ih =>
    by_cases here : b = special
    · subst here
      have low : isHigh b = false := decide_eq_false (Nat.not_le.2 edits.low)
      rw [edits.ends, List.takeWhile_cons, low]
      rfl
    · rw [edits.other_byte _ _ here, List.takeWhile_cons, List.takeWhile_cons, ih]

/-- The edits can be made before or after decoding. -/
theorem decode_eq (bytes : Bytes) : decode (onBytes bytes) = onText (decode bytes) := by
  induction bytes using decodeInduction with
  | ended =>
    have empty : decode [] = [] := rfl
    rw [edits.nil_bytes, empty, edits.nil_text]
  | char c rest ih =>
    rw [decode_char]
    by_cases here : c = Char.ofNat special.toNat
    · subst here
      rw [utf8EncodeChar_charOfByte edits.low]
      exact edits.agree rest ih
    · have other : Symbol.char c ≠ .char (Char.ofNat special.toNat) := by simpa using here
      rw [edits.append_of_not_mem (not_mem_utf8EncodeChar edits.low here), decode_char, ih, edits.other_symbol _ _ other]
  | stray b rest stray ih =>
    have high := high_of_stray stray
    have here : b ≠ special := by
      rintro rfl
      exact absurd edits.low (Nat.not_lt.2 high)
    have other : Symbol.ofStrayByte b ≠ .char (Char.ofNat special.toNat) := by simp [Symbol.ofStrayByte]
    rw [edits.other_byte _ _ here, decode_stray stray, decode_stray (stray_of_takeWhile stray (edits.takeWhile_isHigh rest)), ih,
      edits.other_symbol _ _ other]

end EditsAt

end Text

/-- A byte string with a backslash before every dollar sign. -/
def Bytes.escapeDollars (bytes : Bytes) : Bytes :=
  bytes.flatMap fun b => if b = 0x24 then [0x5c, b] else [b]

theorem Text.editsAt_escapeDollars : EditsAt 0x24 Bytes.escapeDollars Text.escapeDollars where
  low := by decide
  nil_bytes := rfl
  nil_text := rfl
  other_byte b rest other := by simp [Bytes.escapeDollars, other]
  other_symbol s rest other := by
    have dollar : s ≠ .char '$' := other
    simp [Text.escapeDollars, dollar]
  ends rest := rfl
  agree rest ih := by
    have escaped : Bytes.escapeDollars (0x24 :: rest) = 0x5c :: 0x24 :: Bytes.escapeDollars rest := rfl
    rw [escaped, decode_low (by decide), decode_low (by decide), ih]
    rfl

end ShellTemplate
