import QueryComposer.Binary64.Basic
import QueryComposer.Text.Numeral

/-! # Doubles and decimals

  A double is written with the fewest digits that read back as the same double;
  of two such decimals the nearer one is taken, and of two that are equally near the
  one that the form of writing takes (`Tie`). A decimal is read either exactly
  (`ofDecimal`) or by one rounded operation on a significand of at most
  64 bits (`ofScaled`), which is how numbers in documents are read.
-/

namespace QueryComposer

/-- The decimal `digits · 10 ^ exponent`. -/
structure Decimal where
  /-- The significant digits as one number. -/
  digits : Nat
  /-- The power of ten. -/
  exponent : Int
deriving DecidableEq, Repr, Inhabited

namespace Binary64

/-! ## Section 1: Writing -/

/-- Which of two decimals is taken that are equally near to a double. -/
inductive Tie where
  /-- The one whose last digit is even. -/
  | toEven
  /-- The one further from zero. -/
  | away
deriving DecidableEq, Repr

/-- The natural nearest to the quotient `num / den`. -/
def Tie.nearest (tie : Tie) (num den : Nat) : Nat :=
  match tie with
  | toEven => nearestEven num den
  | away => (2 * num + den) / (2 * den)

/-- `10 ^ k` as a quotient of naturals. -/
def tenTo (k : Int) : Nat × Nat :=
  if 0 ≤ k then (Nat.pow 10 k.toNat, 1) else (1, Nat.pow 10 (-k).toNat)

/-- The least `p` with `x < 10 ^ p`, for a double other than zero. The logarithm
    in base two brings the search within two steps of it. -/
def decimalPoint (x : Binary64) : Int :=
  let (a, b) := x.magnitude
  let below (p : Int) : Bool := let (c, d) := tenTo p; a * d < c * b
  let start : Int := ((x.mantissa.log2 : Int) + x.exponent) * 30103 / 100000
  if below start then start
  else if below (start + 1) then start + 1
  else start + 2

/-- Whether `n · 10 ^ k` reads back as `x`: it lies between the points half way
    to the neighbouring doubles, which belong to `x` when its mantissa is even. -/
def readsBack (x : Binary64) (n : Nat) (k : Int) : Bool :=
  let (unit, part) := scaled 1 (x.exponent - 2)
  let (power, fraction) := tenTo k
  let gapBelow := if x.mantissa = Nat.pow 2 52 && leastExponent < x.exponent then 1 else 2
  let point := n * power * part
  let low := (4 * x.mantissa - gapBelow) * unit * fraction
  let high := (4 * x.mantissa + 2) * unit * fraction
  if x.mantissa % 2 = 0 then low ≤ point && point ≤ high else low < point && point < high

/-- The neighbour of `x` among the multiples of `10 ^ k` that reads back as `x`;
    of two, the nearer. -/
def onGrid? (tie : Tie) (x : Binary64) (k : Int) : Option Nat :=
  let (a, b) := x.magnitude
  let (power, fraction) := tenTo k
  let below := a * fraction / (b * power)
  let near := tie.nearest (a * fraction) (b * power)
  let far := if near = below then below + 1 else below
  if x.readsBack near k then some near
  else if x.readsBack far k then some far
  else none

/-- The number without its final zeros, which move into the exponent. -/
def trimZeros : Nat → Decimal → Decimal
  | 0, d => d
  | fuel + 1, d =>
    if d.digits % 10 = 0 && d.digits ≠ 0 then trimZeros fuel ⟨d.digits / 10, d.exponent + 1⟩
    else d

/-- The shortest decimal that reads back as the magnitude of `x`. Seventeen
    digits always suffice. -/
def shortest (tie : Tie) (x : Binary64) : Decimal :=
  if x.mantissa = 0 then ⟨0, 0⟩
  else
    let p := x.decimalPoint
    let attempt (count : Nat) : Option Decimal :=
      (x.onGrid? tie (p - count)).map fun n => trimZeros 20 ⟨n, p - count⟩
    (((List.range 17).map (· + 1)).findSome? attempt).getD ⟨0, 0⟩

/-- The sign that stands before the digits. -/
def signText (x : Binary64) : List Char := if x.negative then ['-'] else []

/-- The digits in positional notation, with the point where it falls among them;
    `whole` is what follows a number without a fraction. -/
def positional (d : Decimal) (whole : List Char) : List Char :=
  let ds := Text.decimal d.digits
  let point : Int := ds.length + d.exponent
  if 0 ≤ d.exponent then ds ++ List.replicate d.exponent.toNat '0' ++ whole
  else if 0 < point then ds.take point.toNat ++ '.' :: ds.drop point.toNat
  else '0' :: '.' :: List.replicate (-point).toNat '0' ++ ds

/-- The digits in scientific notation: one digit, the others after a point, and
    the power of ten. -/
def scientific (d : Decimal) : List Char :=
  let ds := Text.decimal d.digits
  let power : Int := ds.length + d.exponent - 1
  let fraction := if ds.length ≤ 1 then [] else '.' :: ds.drop 1
  let sign := if power < 0 then ['-'] else []
  ds.take 1 ++ fraction ++ 'e' :: sign ++ Text.decimal power.natAbs

/-- The number as documents hold it: positional from `10^-5` up to `10^16`, always
    with a fraction, and scientific beyond; ties go to the even digit. -/
def documentText (x : Binary64) : List Char :=
  let d := x.shortest .toEven
  let point : Int := (Text.decimal d.digits).length + d.exponent
  x.signText ++
    (if -5 < point && point ≤ 16 then positional d ['.', '0'] else scientific d)

/-- The number in full, without a power of ten, and without a fraction where it is whole;
    ties go away from zero. -/
def plainText (x : Binary64) : List Char := x.signText ++ positional (x.shortest .away) []

/-! ## Section 2: Reading -/

/-- The double nearest to a decimal; none where it is beyond the greatest. Decimals
    far outside the doubles are settled by their size alone. -/
def ofDecimal (negative : Bool) (d : Decimal) : Option Binary64 :=
  let size : Int := (Text.decimal d.digits).length + d.exponent
  if d.digits = 0 || size < -400 then some (zero negative)
  else if 400 < size then none
  else
    let (power, fraction) := tenTo d.exponent
    round negative (d.digits * power) fraction

/-- The power of ten as a double. -/
def powerOfTen (k : Nat) : Binary64 := (round false (Nat.pow 10 k) 1).getD (zero false)

/-- A decimal read by one rounded operation: its digits become a double, which is
    multiplied or divided by a power of ten. Exponents below `-308` take a second
    division, and none is left after it. -/
def ofScaled (negative : Bool) (d : Decimal) : Option Binary64 := do
  let significand ← round negative d.digits 1
  if d.digits = 0 then return zero negative
  else if 308 < d.exponent then none
  else if 0 ≤ d.exponent then significand.mul (powerOfTen d.exponent.toNat)
  else if -308 ≤ d.exponent then significand.div (powerOfTen (-d.exponent).toNat)
  else
    let part ← significand.div (powerOfTen 308)
    let rest := d.exponent + 308
    if -308 ≤ rest then part.div (powerOfTen (-rest).toNat) else return zero negative

end Binary64

end QueryComposer
