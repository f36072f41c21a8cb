/-! # UTF-8

  Bytes are read as characters one at a time. Bytes that are not UTF-8 do not
  stop the reading: each longest run of them that could have begun a character
  reads as one replacement character.

  `decodeFrom` steps over the bytes with what is known of the character begun;
  `decode` starts it between characters.
-/

namespace QueryComposer.Text

/-- The character that stands for bytes that are not UTF-8. -/
def replacement : Char := '\uFFFD'

/-- A character of which the first bytes have been read. -/
structure Begun where
  /-- The bits read so far. -/
  code : Nat
  /-- How many bytes are still to come. -/
  missing : Nat
  /-- The least value of the next byte. -/
  low : Nat
  /-- The greatest value of the next byte. -/
  high : Nat
deriving DecidableEq, Repr

/-- What a byte between characters is. -/
inductive FirstByte where
  | whole (c : Char)
  | begins (b : Begun)
  | wrong

/-- The byte as the first of a character. The next byte is bounded more tightly after
    the bytes that could otherwise begin an overlong form, a surrogate or a number
    beyond the last character. -/
def firstByte (n : Nat) : FirstByte :=
  if n < 0x80 then .whole (Char.ofNat n)
  else if n < 0xC2 then .wrong
  else if n < 0xE0 then .begins ⟨n - 0xC0, 1, 0x80, 0xBF⟩
  else if n < 0xF0 then
    .begins ⟨n - 0xE0, 2, if n = 0xE0 then 0xA0 else 0x80, if n = 0xED then 0x9F else 0xBF⟩
  else if n < 0xF5 then
    .begins ⟨n - 0xF0, 3, if n = 0xF0 then 0x90 else 0x80, if n = 0xF4 then 0x8F else 0xBF⟩
  else .wrong

/-- The characters of the bytes, the first of which continue the character begun,
    if there is one. -/
def decodeFrom : Option Begun → List UInt8 → List Char
  | none, [] => []
  | some _, [] => [replacement]
  | none, byte :: bytes =>
    match firstByte byte.toNat with
    | .whole c => c :: decodeFrom none bytes
    | .begins b => decodeFrom (some b) bytes
    | .wrong => replacement :: decodeFrom none bytes
  | some b, byte :: bytes =>
    let n := byte.toNat
    if b.low ≤ n && n ≤ b.high then
      let code := b.code * 0x40 + (n - 0x80)
      if b.missing ≤ 1 then Char.ofNat code :: decodeFrom none bytes
      else decodeFrom (some ⟨code, b.missing - 1, 0x80, 0xBF⟩) bytes
    else
      match firstByte n with
      | .whole c => replacement :: c :: decodeFrom none bytes
      | .begins b' => replacement :: decodeFrom (some b') bytes
      | .wrong => replacement :: replacement :: decodeFrom none bytes

/-- The characters of the bytes. -/
def decode (bytes : List UInt8) : List Char := decodeFrom none bytes

end QueryComposer.Text
