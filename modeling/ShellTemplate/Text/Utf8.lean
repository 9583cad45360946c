import ShellTemplate.Text.Symbol

/-!
# Texts as bytes

UTF-8 in both directions, for every byte string. A byte that is part of no character is read as a
stray symbol and written as itself, so `encode` undoes `decode`.
-/

namespace ShellTemplate

/-- Byte strings. -/
abbrev Bytes := List UInt8

namespace Symbol

/-- The bytes of a symbol. -/
def encode : Symbol → Bytes
  | .char c => String.utf8EncodeChar c
  | .stray low => [UInt8.ofNat (0x80 + low)]

/-- The symbol of a byte that is part of no character. -/
def ofStrayByte (b : UInt8) : Symbol :=
  .stray (Fin.ofNat 128 b.toNat)

end Symbol

namespace Text

/-- The bytes of a text. -/
def encode (text : Text) : Bytes :=
  text.flatMap Symbol.encode

/-- The character whose UTF-8 form begins a byte string. -/
def leadingChar? (bytes : Bytes) : Option Char :=
  (bytes.take 4).toByteArray.utf8DecodeChar? 0

/-- Reads bytes after `done`, the part already read, in reverse, and past the next `skip` bytes,
    which belong to the last character read. -/
def decodeOnto (done : Text) : (skip : Nat) → Bytes → Text
  | _, [] => done.reverse
  | skip + 1, _ :: rest => decodeOnto done skip rest
  | 0, b :: rest =>
    match leadingChar? (b :: rest) with
    | some c => decodeOnto (.char c :: done) (c.utf8Size - 1) rest
    | none => decodeOnto (.ofStrayByte b :: done) 0 rest

theorem decodeOnto_eq (done : Text) (skip : Nat) (bytes : Bytes) :
    decodeOnto done skip bytes = done.reverse ++ decodeOnto [] skip bytes := by
  induction bytes generalizing done skip with
  | nil => cases skip <;> simp [decodeOnto]
  | cons b rest ih =>
    cases skip with
    | succ skip => simp only [decodeOnto]; exact ih ..
    | zero =>
      simp only [decodeOnto]
      split
      · rw [ih, ih [_]]; simp
      · rw [ih, ih [_]]; simp

/-- The text that a byte string encodes. -/
def decode (bytes : Bytes) : Text :=
  decodeOnto [] 0 bytes

/-- Whether every symbol is a character, so that the bytes of the text are strict UTF-8. -/
def isStrict (text : Text) : Bool :=
  text.all fun
    | .char _ => true
    | .stray _ => false

end Text

end ShellTemplate
