/-! # Double-precision numbers

  A finite double is a sign, a whole mantissa below `2^53` and a power of two.
  All arithmetic is exact on naturals and rounds once, to the nearest double,
  a tie going to the even mantissa.

  - `Binary64.round` is that rounding of a quotient of naturals.
  - `Binary64.mul` and `Binary64.div` round the exact product and quotient.
  - `Binary64.truncate`, `Binary64.integer64` and `Binary64.nearest` lead back to the
    integers.
-/

namespace QueryComposer

/-- The finite double `± mantissa · 2 ^ exponent`. Rounding chooses the exponent
    so that the mantissa is at least `2^52`, down to the least exponent `-1074`;
    zero has that exponent too. -/
structure Binary64 where
  /-- Whether the number stands below zero; zero itself has both signs. -/
  negative : Bool
  /-- The whole number that the power of two scales. -/
  mantissa : Nat
  /-- The power of two. -/
  exponent : Int
deriving DecidableEq, Repr, Inhabited

namespace Binary64

/-- The least exponent of a double. -/
def leastExponent : Int := -1074

/-- The greatest exponent of a double. -/
def greatestExponent : Int := 971

/-- Zero of a sign. -/
def zero (negative : Bool) : Binary64 := ⟨negative, 0, leastExponent⟩

/-- The same number on the other side of zero. -/
def neg (x : Binary64) : Binary64 := { x with negative := !x.negative }

/-- The quotient rounded to the nearest natural; a half goes to the even one. -/
def nearestEven (num den : Nat) : Nat :=
  let q := num / den
  let r := num % den
  if 2 * r < den then q
  else if den < 2 * r then q + 1
  else if q % 2 = 0 then q else q + 1

/-- `n · 2 ^ e` as a quotient of naturals. -/
def scaled (n : Nat) (e : Int) : Nat × Nat :=
  if 0 ≤ e then (n * Nat.pow 2 e.toNat, 1) else (n, Nat.pow 2 (-e).toNat)

/-- The exponent that gives `num / den` a mantissa of 53 bits, or the least one
    where the number is too small for that. -/
def exponentFor (num den : Nat) : Int :=
  let high : Int := (num.log2 : Int) - (den.log2 : Int) - 52
  let (power, unit) := scaled 1 (high + 52)
  let fitted := if num * unit < den * power then high - 1 else high
  max fitted leastExponent

/-- The double nearest to `num / den`; none where it is beyond the greatest. -/
def round (negative : Bool) (num den : Nat) : Option Binary64 :=
  if num = 0 then some (zero negative)
  else
    let e := exponentFor num den
    let (n, d) := scaled num (-e)
    let m := nearestEven n (d * den)
    let x : Binary64 :=
      if m = Nat.pow 2 53 then ⟨negative, Nat.pow 2 52, e + 1⟩ else ⟨negative, m, e⟩
    if x.mantissa = 0 then some (zero negative)
    else if greatestExponent < x.exponent then none
    else some x

/-- The magnitude of a double as a quotient of naturals. -/
def magnitude (x : Binary64) : Nat × Nat := scaled x.mantissa x.exponent

/-- The double nearest to the product. -/
def mul (x y : Binary64) : Option Binary64 :=
  let (a, b) := x.magnitude
  let (c, d) := y.magnitude
  round (x.negative != y.negative) (a * c) (b * d)

/-- The double nearest to the quotient; the divisor is not zero. -/
def div (x y : Binary64) : Option Binary64 :=
  let (a, b) := x.magnitude
  let (c, d) := y.magnitude
  round (x.negative != y.negative) (a * d) (b * c)

/-- The integer with the sign of `x` and the given magnitude. -/
def signed (x : Binary64) (n : Nat) : Int := if x.negative then -(n : Int) else n

/-- The integer part: the fraction is dropped. -/
def truncate (x : Binary64) : Int :=
  let (a, b) := x.magnitude
  x.signed (a / b)

/-- The integer part, moved to the nearer end where it is beyond the integers of 64 bits. -/
def integer64 (x : Binary64) : Int :=
  max (-(Nat.pow 2 63 : Int)) (min x.truncate (Nat.pow 2 63 - 1))

/-- The nearest integer; a half goes away from zero. -/
def nearest (x : Binary64) : Int :=
  let (a, b) := x.magnitude
  x.signed ((2 * a + b) / (2 * b))

end Binary64

end QueryComposer
