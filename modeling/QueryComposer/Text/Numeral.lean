/-! # Numerals

  Whole numbers as people write them: ASCII digits, most significant first,
  with an optional sign. Leading zeros are allowed, and nothing else is:
  no separators, no white space, no digits of other scripts.
-/

namespace QueryComposer.Text

/-- One or more ASCII digits. -/
def isDigits (cs : List Char) : Bool := !cs.isEmpty && cs.all Char.isDigit

/-- The number that a run of digits stands for. -/
def natural? (cs : List Char) : Option Nat :=
  if isDigits cs then some (Nat.ofDigitChars 10 cs 0) else none

/-- A whole number; a sign may stand before the digits. -/
def integer? : List Char → Option Int
  | '-' :: digits => (natural? digits).map fun n => -(n : Int)
  | '+' :: digits => (natural? digits).map Int.ofNat
  | digits => (natural? digits).map Int.ofNat

/-- A number below `bound`, written with digits alone. -/
def naturalBelow? (bound : Nat) (cs : List Char) : Option Nat :=
  (natural? cs).filter (· < bound)

/-- A number below `bound`; a plus sign may stand before the digits. -/
def unsignedBelow? (bound : Nat) : List Char → Option Nat
  | '+' :: digits => naturalBelow? bound digits
  | digits => naturalBelow? bound digits

/-- A number from `-2^63` up to `2^63 - 1`; a sign may stand before the digits. -/
def integer64? : List Char → Option Int
  | '-' :: digits => (naturalBelow? (Nat.pow 2 63 + 1) digits).map fun n => -(n : Int)
  | '+' :: digits => (naturalBelow? (Nat.pow 2 63) digits).map Int.ofNat
  | digits => (naturalBelow? (Nat.pow 2 63) digits).map Int.ofNat

/-- The decimal numeral of a number, without leading zeros. -/
def decimal (n : Nat) : List Char := Nat.toDigits 10 n

/-- The numeral of a number in base sixteen, with small letters. -/
def hexadecimal (n : Nat) : List Char := Nat.toDigits 16 n

/-- The value of a digit in base sixteen, whose letters may be of either case. -/
def hexValue? (c : Char) : Option Nat :=
  let n := c.toNat
  if 0x30 ≤ n && n ≤ 0x39 then some (n - 0x30)
  else if 0x41 ≤ n && n ≤ 0x46 then some (n - 0x41 + 10)
  else if 0x61 ≤ n && n ≤ 0x66 then some (n - 0x61 + 10)
  else none

end QueryComposer.Text
