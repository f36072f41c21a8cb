import QueryComposer.Binary64.Extended
import QueryComposer.Text.Cut

/-! # Numbers of TOML

  An integer is written in one of four bases, told by what it begins with. A float has a
  fraction, a power of ten or both, or is one of two words. Between two digits a single
  underscore may stand, and a number of base ten begins with a zero only if the zero is
  all there is before the point.
-/

namespace QueryComposer

namespace Toml

/-- The digits of a run, between which single underscores may stand. -/
def digits? (isDigit : Char → Bool) : List Char → Option (List Char)
  | [] => none
  | [c] => if isDigit c then some [c] else none
  | c :: '_' :: cs => if isDigit c then (digits? isDigit cs).map (c :: ·) else none
  | c :: cs => if isDigit c then (digits? isDigit cs).map (c :: ·) else none

/-! ## Section 1: Integers -/

/-- The number of a run of digits in a base. -/
def inBase? (base : Nat) (cs : List Char) : Option Nat := do
  let ds ← digits? (fun c => ((Text.hexValue? c).map (decide <| · < base)).getD false) cs
  return ds.foldl (fun n c => base * n + (Text.hexValue? c).getD 0) 0

/-- The digits of a number, of which only a zero alone begins with a zero. -/
def wholeDigits? (cs : List Char) : Option (List Char) :=
  (digits? Char.isDigit cs).filter fun ds => !(ds.head? = some '0' && 1 < ds.length)

/-- An integer; its base is told by what it begins with. -/
def integer? : List Char → Option Int
  | '0' :: 'x' :: cs => (inBase? 16 cs).map Int.ofNat
  | '0' :: 'o' :: cs => (inBase? 8 cs).map Int.ofNat
  | '0' :: 'b' :: cs => (inBase? 2 cs).map Int.ofNat
  | '-' :: cs => (wholeDigits? cs).map fun ds => -(Nat.ofDigitChars 10 ds 0 : Int)
  | '+' :: cs => (wholeDigits? cs).map fun ds => Nat.ofDigitChars 10 ds 0
  | cs => (wholeDigits? cs).map fun ds => Nat.ofDigitChars 10 ds 0

/-! ## Section 2: Floats -/

/-- The power of ten of a float. -/
def power? : List Char → Option Int
  | '-' :: cs => (digits? Char.isDigit cs).map fun ds => -(Nat.ofDigitChars 10 ds 0 : Int)
  | '+' :: cs => (digits? Char.isDigit cs).map fun ds => Nat.ofDigitChars 10 ds 0
  | cs => (digits? Char.isDigit cs).map fun ds => Nat.ofDigitChars 10 ds 0

/-- The digits before and after the point, where there is a point. -/
def pointed? (cs : List Char) : Option (List Char × List Char) := do
  let (whole, fraction) ← Text.cutFirst '.' cs
  return (← wholeDigits? whole, ← digits? Char.isDigit fraction)

/-- The decimal that a float gives, which has a fraction, a power of ten or both. -/
def decimal? (cs : List Char) : Option Decimal := do
  let (whole, fraction, power) ← match Text.cutFirst 'e' (cs.map Char.toLower) with
    | some (before, after) => do
      let power ← power? after
      match pointed? before with
      | some (whole, fraction) => pure (whole, fraction, power)
      | none => do pure (← wholeDigits? before, [], power)
    | none => do
      let (whole, fraction) ← pointed? cs
      pure (whole, fraction, 0)
  return { digits := Nat.ofDigitChars 10 (whole ++ fraction) 0
           exponent := power - fraction.length }

/-- The float of some text without sign. Beyond the least double there is negative
    infinity; beyond the greatest there is none. -/
def magnitude? (negative : Bool) : List Char → Option Extended
  | ['i', 'n', 'f'] => some (.infinite negative)
  | ['n', 'a', 'n'] => some .undefined
  | cs =>
    ((decimal? cs).map (Extended.ofDecimal negative)).filter fun x => x ≠ .infinite false

/-- A float. -/
def float? : List Char → Option Extended
  | '-' :: cs => magnitude? true cs
  | '+' :: cs => magnitude? false cs
  | cs => magnitude? false cs

end Toml

end QueryComposer
