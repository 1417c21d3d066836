/-!
# UTF-8

Characters to bytes and back.  Decoding is a machine that takes one byte at a time.  Between two
characters it is in the state `Decoder.start`; inside a character it remembers how many bytes are
still due, the value of those read, and which bytes may come next, so that a byte which rules out
every character is refused at once.

* `decode?` refuses a list of bytes that is not well formed.
* `decodeLossy` puts one replacement character in place of every maximal part that a refused
  byte, or the end, leaves unfinished; the refused byte itself is then read afresh.
* `encode` writes the bytes of each character in turn.
-/

namespace Signpost.Text.Utf8

/-- The character that stands for bytes which are not well formed. -/
def replacement : Char := '\uFFFD'

/-- The bytes of a list of characters. -/
def encode (cs : List Char) : List UInt8 :=
  cs.flatMap String.utf8EncodeChar

/-- Where decoding stands between two bytes. -/
structure Decoder where
  /-- Bytes of the current character that are still due; none between two characters. -/
  due : Nat
  /-- Bits of the current character that have been read. -/
  value : Nat
  /-- Least byte that may come next inside a character. -/
  low : Nat
  /-- Greatest byte that may come next inside a character. -/
  high : Nat
  deriving DecidableEq, Repr

/-- Between two characters. -/
def Decoder.start : Decoder := ⟨0, 0, 0x80, 0xBF⟩

/-- What a byte does: it ends a character, it leaves one unfinished, or it is refused. -/
inductive Outcome where
  | char (c : Char)
  | unfinished (d : Decoder)
  | refused
  deriving DecidableEq, Repr

/-- The first byte of a character.  The bounds on the second byte keep out overlong forms,
surrogates and values above `U+10FFFF`. -/
def firstByte (b : Nat) : Outcome :=
  if b < 0x80 then .char (Char.ofNat b)
  else if b < 0xC2 then .refused
  else if b < 0xE0 then .unfinished ⟨1, b - 0xC0, 0x80, 0xBF⟩
  else if b < 0xF0 then
    .unfinished ⟨2, b - 0xE0, if b = 0xE0 then 0xA0 else 0x80, if b = 0xED then 0x9F else 0xBF⟩
  else if b < 0xF5 then
    .unfinished ⟨3, b - 0xF0, if b = 0xF0 then 0x90 else 0x80, if b = 0xF4 then 0x8F else 0xBF⟩
  else .refused

/-- One more byte. -/
def Decoder.step (d : Decoder) (b : UInt8) : Outcome :=
  if d.due = 0 then firstByte b.toNat
  else if d.low ≤ b.toNat ∧ b.toNat ≤ d.high then
    let value := d.value * 64 + (b.toNat - 0x80)
    if d.due = 1 then .char (Char.ofNat value) else .unfinished ⟨d.due - 1, value, 0x80, 0xBF⟩
  else .refused

/-- Decodes from a state; refuses bytes that are not well formed, and an unfinished end. -/
def decodeFrom? (d : Decoder) : List UInt8 → Option (List Char)
  | [] => if d.due = 0 then some [] else none
  | b :: bytes =>
    match d.step b with
    | .char c => (decodeFrom? .start bytes).map (c :: ·)
    | .unfinished d' => decodeFrom? d' bytes
    | .refused => none

/-- The characters of a well-formed list of bytes. -/
def decode? (bytes : List UInt8) : Option (List Char) :=
  decodeFrom? .start bytes

/-- One more byte where nothing is refused: the characters it gives, and the state after it. -/
def Decoder.stepLossy (d : Decoder) (b : UInt8) : List Char × Decoder :=
  match d.step b with
  | .char c => ([c], .start)
  | .unfinished d' => ([], d')
  | .refused =>
    if d.due = 0 then ([replacement], .start)
    else match firstByte b.toNat with
      | .char c => ([replacement, c], .start)
      | .unfinished d' => ([replacement], d')
      | .refused => ([replacement, replacement], .start)

/-- Decodes from a state, with replacement characters for what is not well formed. -/
def decodeLossyFrom (d : Decoder) : List UInt8 → List Char
  | [] => if d.due = 0 then [] else [replacement]
  | b :: bytes => (d.stepLossy b).1 ++ decodeLossyFrom (d.stepLossy b).2 bytes

/-- The characters of any list of bytes, each maximal part that is not well formed replaced by
one replacement character. -/
def decodeLossy (bytes : List UInt8) : List Char :=
  decodeLossyFrom .start bytes

end Signpost.Text.Utf8
