import QueryComposer.Binary64.Decimal

/-! # Doubles with infinities

  Outside documents a double may be infinite or undefined. It is read from decimals
  with a point and a power of ten, either of which may be missing, and from words;
  a decimal beyond the greatest double is infinite.
-/

namespace QueryComposer

/-- A double of any kind. -/
inductive Extended where
  /-- A finite double. -/
  | finite (x : Binary64)
  /-- Infinity, on one side of zero or the other. -/
  | infinite (negative : Bool)
  /-- No number. -/
  | undefined
deriving DecidableEq, Repr, Inhabited

namespace Extended

/-! ## Section 1: Writing -/

/-- The number in full, without a power of ten. -/
def plainText : Extended → List Char
  | finite x => x.plainText
  | infinite false => ['i', 'n', 'f']
  | infinite true => ['-', 'i', 'n', 'f']
  | undefined => ['N', 'a', 'N']

/-- The nearest natural of 64 bits, a half going away from zero; 0 where there is no
    number. -/
def nearestNatural : Extended → Nat
  | finite x => min x.nearest.toNat (Nat.pow 2 64 - 1)
  | infinite negative => if negative then 0 else Nat.pow 2 64 - 1
  | undefined => 0

/-! ## Section 2: Reading -/

/-- The double nearest to a decimal, or infinity. -/
def ofDecimal (negative : Bool) (d : Decimal) : Extended :=
  match Binary64.ofDecimal negative d with
  | some x => .finite x
  | none => .infinite negative

/-- The power of ten behind the digits, 0 if none is given. -/
def power? : List Char → Option Int
  | [] => some 0
  | c :: cs => if c = 'e' || c = 'E' then Text.integer? cs else none

/-- The decimal that a text without sign gives. Digits stand before the point or
    after it, and the point may be left out. -/
def decimal? (cs : List Char) : Option Decimal :=
  let whole := cs.takeWhile Char.isDigit
  let (fraction, rest) := match cs.dropWhile Char.isDigit with
    | '.' :: after => (after.takeWhile Char.isDigit, after.dropWhile Char.isDigit)
    | rest => ([], rest)
  if whole.isEmpty && fraction.isEmpty then none
  else (power? rest).map fun p =>
    { digits := Nat.ofDigitChars 10 (whole ++ fraction) 0, exponent := p - fraction.length }

/-- The double that a text without sign gives, in letters of either case. -/
def magnitude? (negative : Bool) (cs : List Char) : Option Extended :=
  match String.ofList (cs.map Char.toLower) with
  | "inf" | "infinity" => some (.infinite negative)
  | "nan" => some .undefined
  | _ => (decimal? cs).map (ofDecimal negative)

/-- The double that a text gives; a sign may stand before it. -/
def ofText? : List Char → Option Extended
  | '-' :: cs => magnitude? true cs
  | '+' :: cs => magnitude? false cs
  | cs => magnitude? false cs

end Extended

end QueryComposer
