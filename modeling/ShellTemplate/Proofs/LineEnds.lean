import ShellTemplate.Proofs.Decoding
import ShellTemplate.Text.LineEnds

/-!
# Line ends of bytes and of texts

Line ends can be unified before or after bytes are decoded (`editsAt_unifyLineEnds`), and bytes without a carriage
return stay as they are.
-/

namespace ShellTemplate

/-- A byte string whose line ends are all line feeds: a carriage return before a line feed is left out, and any other
    turns into one. -/
def Bytes.unifyLineEnds : Bytes → Bytes
  | [] => []
  | b :: rest =>
    if b = 0x0d then
      if rest.head? = some 0x0a then unifyLineEnds rest else 0x0a :: unifyLineEnds rest
    else b :: unifyLineEnds rest

theorem Bytes.unifyLineEnds_of_not_mem {bytes : Bytes} (plain : 0x0d ∉ bytes) : bytes.unifyLineEnds = bytes := by
  induction bytes with
  | nil => rfl
  | cons b rest ih =>
    rw [List.mem_cons, not_or] at plain
    rw [unifyLineEnds, if_neg (Ne.symm plain.1), ih plain.2]

namespace Text

theorem unifyLineEndsOnto_append (done front text : Text) :
    unifyLineEndsOnto (done ++ front) text = front.reverse ++ unifyLineEndsOnto done text := by
  induction done, text using unifyLineEndsOnto.induct with
  | case1 done => simp [unifyLineEndsOnto]
  | case2 done rest ih => exact ih
  | case3 done s rest other ih =>
    rw [unifyLineEndsOnto.eq_3 _ _ _ other, unifyLineEndsOnto.eq_3 _ _ _ other]
    exact ih

theorem unifyLineEndsOnto_singleton (s : Symbol) (text : Text) : unifyLineEndsOnto [s] text = s :: unifyLineEnds text :=
  unifyLineEndsOnto_append [] [s] text

theorem unifyLineEnds_cons {s : Symbol} (other : s ≠ .char '\r') (rest : Text) :
    unifyLineEnds (s :: rest) = s :: unifyLineEnds rest := by
  have step := unifyLineEndsOnto.eq_3 [] s rest fun _ here => absurd here other
  rw [if_neg other, unifyLineEndsOnto_singleton] at step
  exact step

theorem unifyLineEnds_return (rest : Text) :
    unifyLineEnds (.char '\r' :: rest) =
      if rest.head? = some (.char '\n') then unifyLineEnds rest else .char '\n' :: unifyLineEnds rest := by
  by_cases feed : rest.head? = some (.char '\n')
  · obtain ⟨more, rfl⟩ := List.head?_eq_some_iff.1 feed
    have kept : Symbol.char '\n' ≠ .char '\r' := by decide
    rw [if_pos feed, unifyLineEnds_cons kept]
    exact unifyLineEndsOnto_singleton _ more
  · have step := unifyLineEndsOnto.eq_3 [] (.char '\r') rest fun more _ here => feed (by rw [here]; rfl)
    rw [if_pos rfl, unifyLineEndsOnto_singleton] at step
    rw [if_neg feed]
    exact step

theorem head?_decode_low {b : UInt8} (low : b.toNat < 128) (bytes : Bytes) :
    (decode bytes).head? = some (.char (Char.ofNat b.toNat)) ↔ bytes.head? = some b := by
  constructor
  · induction bytes using decodeInduction with
    | ended => nofun
    | char c rest =>
      intro first
      rw [decode_char, List.head?_cons, Option.some.injEq, Symbol.char.injEq] at first
      rw [first, utf8EncodeChar_charOfByte low]
      rfl
    | stray b rest stray =>
      intro first
      rw [decode_stray stray, List.head?_cons, Option.some.injEq] at first
      cases first
  · intro first
    obtain ⟨rest, rfl⟩ := List.head?_eq_some_iff.1 first
    rw [decode_low low]
    rfl

theorem editsAt_unifyLineEnds : EditsAt 0x0d Bytes.unifyLineEnds unifyLineEnds where
  low := by decide
  nil_bytes := rfl
  nil_text := rfl
  other_byte b rest other := by rw [Bytes.unifyLineEnds, if_neg other]
  other_symbol s rest other := unifyLineEnds_cons other rest
  ends rest := by
    rw [Bytes.unifyLineEnds, if_pos rfl]
    by_cases feed : rest.head? = some 0x0a
    · obtain ⟨more, rfl⟩ := List.head?_eq_some_iff.1 feed
      rw [if_pos feed, Bytes.unifyLineEnds, if_neg (by decide)]
      rfl
    · rw [if_neg feed]
      rfl
  agree rest ih := by
    have low : UInt8.toNat 0x0a < 128 := by decide
    have feed_iff : (decode rest).head? = some (.char '\n') ↔ rest.head? = some 0x0a := head?_decode_low low rest
    have return_eq := unifyLineEnds_return (decode rest)
    rw [Bytes.unifyLineEnds, if_pos rfl]
    by_cases feed : rest.head? = some 0x0a
    · rw [if_pos (feed_iff.2 feed)] at return_eq
      rw [if_pos feed, ih]
      exact return_eq.symm
    · rw [if_neg (mt feed_iff.1 feed)] at return_eq
      rw [if_neg feed, decode_low (by decide), ih]
      exact return_eq.symm

end Text

end ShellTemplate
