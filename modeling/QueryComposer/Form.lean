import QueryComposer.Text.Cut
import QueryComposer.Text.Numeral
import QueryComposer.Text.Utf8

/-! # Form encoding

  Pairs of texts in one line, as in the query of a link: `name=value` pairs joined
  by `&`. In each part a space is written as a plus sign, letters, digits and
  `* - . _` stand for themselves, and of everything else each byte is written as
  a percent sign and two digits in base sixteen.

  Reading is lenient: an empty piece is no pair, a piece without an equals sign
  has an empty value, a percent sign that no two digits follow stands for itself,
  and bytes that are not UTF-8 become replacement characters.
-/

namespace QueryComposer.Form

/-! ## Section 1: Writing -/

/-- The characters that stand for themselves. -/
def isPlain (c : Char) : Bool :=
  c.isAlphanum || c = '*' || c = '-' || c = '.' || c = '_'

/-- The digit of a value below sixteen, with capital letters. -/
def hexDigit (n : Nat) : Char := if n < 10 then Char.ofNat (0x30 + n) else Char.ofNat (0x37 + n)

/-- A byte as a percent sign and two digits. -/
def percentByte (b : UInt8) : List Char :=
  ['%', hexDigit (b.toNat / 16), hexDigit (b.toNat % 16)]

/-- One character as it is written. -/
def encodeChar (c : Char) : List Char :=
  if c = ' ' then ['+']
  else if isPlain c then [c]
  else (String.utf8EncodeChar c).flatMap percentByte

/-- A name or a value as it is written. -/
def encodePart (s : String) : List Char := s.toList.flatMap encodeChar

/-- A pair as it is written. -/
def encodePair (pair : String × String) : List Char :=
  encodePart pair.1 ++ '=' :: encodePart pair.2

/-- The pairs, joined by `&`. -/
def encode (pairs : List (String × String)) : String :=
  String.ofList (['&'].intercalate (pairs.map encodePair))

/-- Text of pairs with one more pair at its end. -/
def append (text : String) (pair : String × String) : String :=
  let written := String.ofList (encodePair pair)
  if text.isEmpty then written else text ++ "&" ++ written

/-! ## Section 2: Reading -/

/-- The bytes that a written name or value stands for. -/
def partBytes : List Char → List UInt8
  | '+' :: cs => 0x20 :: partBytes cs
  | '%' :: a :: b :: cs =>
    match Text.hexValue? a, Text.hexValue? b with
    | some high, some low => UInt8.ofNat (high * 16 + low) :: partBytes cs
    | _, _ => 0x25 :: partBytes (a :: b :: cs)
  | c :: cs => String.utf8EncodeChar c ++ partBytes cs
  | [] => []

/-- The text that a written name or value stands for. -/
def decodePart (cs : List Char) : String := String.ofList (Text.decode (partBytes cs))

/-- The pair that a piece between two `&` stands for. -/
def decodePiece (piece : List Char) : String × String :=
  match Text.cutFirst '=' piece with
  | some (name, value) => (decodePart name, decodePart value)
  | none => (decodePart piece, "")

/-- The pairs of a text, empty pieces left out. -/
def decode (text : String) : List (String × String) :=
  ((text.toList.splitOn '&').filter (!·.isEmpty)).map decodePiece

end QueryComposer.Form
