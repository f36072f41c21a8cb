import Mathlib.Algebra.Group.Int.Defs
import Mathlib.Algebra.Group.Nat.Defs
import QueryComposer.Json.Reader
import QueryComposer.Proofs.Text.Numeral

/-! # Integers in documents

    A document may give an integer from `-2^63` up to `2^64 - 1`, and it is read as it
    is written.  Where a number has to be an integer of 64 bits with a sign, nothing
    happens to one that is.  A greater one goes by a double, and since rounding keeps
    it above `2^63`, it ends at the greatest of these integers, as if it had been moved
    there at once.

    * `Number.integer64_integer`: what an integer of a document counts as.
    * `Json.parse?_repr`: the text of an integer is read as that integer. -/

namespace QueryComposer

/-! ## Section 1: Rounding great numbers -/

namespace Binary64

theorem div_le_nearestEven (num den : Nat) : num / den ≤ nearestEven num den := by
  unfold nearestEven
  dsimp only
  split
  · omega
  · split
    · omega
    · split <;> omega

/-- A number of exactly 64 bits has the exponent that leaves 53 of them. -/
theorem exponentFor_eq_eleven {n : Nat} (hlow : 2 ^ 63 ≤ n) (hhigh : n < 2 ^ 64) :
    exponentFor n 1 = 11 := by
  have hlog : n.log2 = 63 := by
    rw [Nat.log2_eq_iff (by omega)]
    exact ⟨hlow, hhigh⟩
  unfold exponentFor scaled leastExponent
  rw [hlog]
  have hone : Nat.log2 1 = 0 := by decide
  rw [hone]
  simp
  omega

/-- The double nearest to a number of 64 bits is no smaller than the first of these. -/
theorem exists_round_of_two_pow_le {n : Nat} (hlow : 2 ^ 63 ≤ n) (hhigh : n < 2 ^ 64) :
    ∃ x, round false n 1 = some x ∧ 2 ^ 63 ≤ x.truncate := by
  have hne : n ≠ 0 := by omega
  have hmantissa : 2 ^ 52 ≤ nearestEven n (2 ^ 11) := by
    have hle := div_le_nearestEven n (2 ^ 11)
    omega
  have hscaled : scaled n (-11) = (n, 2 ^ 11) := rfl
  unfold round
  rw [if_neg hne, exponentFor_eq_eleven hlow hhigh]
  dsimp only
  rw [hscaled, Nat.mul_one]
  by_cases hcarry : nearestEven n (2 ^ 11) = Nat.pow 2 53
  · -- rounded up to the next power of two
    rw [if_pos hcarry]
    refine ⟨⟨false, Nat.pow 2 52, 12⟩, rfl, ?_⟩
    decide
  · rw [if_neg hcarry]
    have hpos : nearestEven n (2 ^ 11) ≠ 0 := by omega
    refine ⟨⟨false, nearestEven n (2 ^ 11), 11⟩, ?_, ?_⟩
    · rw [if_neg hpos]
      rfl
    · show (2 : Int) ^ 63 ≤ ((nearestEven n (2 ^ 11) * 2 ^ 11 / 1 : Nat) : Int)
      omega

end Binary64

/-! ## Section 2: Integers of documents -/

namespace Number

/-- An integer of a document counts as itself, up to the greatest one of 64 bits. -/
theorem integer64_integer {n : Int} (h : n < 2 ^ 64) :
    (integer n).integer64 = min n (2 ^ 63 - 1) := by
  have hpow : (Nat.pow 2 63 : Int) = 2 ^ 63 := rfl
  show (if n < (Nat.pow 2 63 : Int) then n else _) = _
  by_cases hsmall : n < (Nat.pow 2 63 : Int)
  · rw [if_pos hsmall]
    omega
  · rw [if_neg hsmall]
    obtain ⟨x, hround, hx⟩ := Binary64.exists_round_of_two_pow_le
      (n := n.toNat) (by omega) (by omega)
    rw [hround]
    show max (-(Nat.pow 2 63 : Int)) (min x.truncate (Nat.pow 2 63 - 1)) = _
    omega

end Number

/-! ## Section 3: Numerals of documents -/

namespace Json

open Text

variable {n : Nat} {c : Char} {cs ds : List Char}

theorem digits?_decimal (n : Nat) : digits? (decimal n) = some (decimal n, []) := by
  have hdigits : ∀ c ∈ decimal n, c.isDigit = true := fun c => isDigit_of_mem_decimal
  have htake : (decimal n).takeWhile Char.isDigit = decimal n :=
    List.takeWhile_eq_self_iff.mpr hdigits
  have hdrop : (decimal n).dropWhile Char.isDigit = [] := List.dropWhile_eq_nil_iff.mpr hdigits
  have hne : (decimal n).isEmpty = false := by simpa using decimal_ne_nil n
  unfold digits?
  simp [htake, hdrop, hne]

/-- A numeral of a natural number has no zeros in front. -/
theorem wholePart?_decimal (n : Nat) : wholePart? (decimal n) = some (decimal n, []) := by
  unfold wholePart?
  rw [digits?_decimal]
  by_cases hn : n = 0
  · rw [hn]
    rfl
  · simp [head?_decimal_ne hn]

theorem numeral?_decimal (n : Nat) :
    numeral? (decimal n) = some (⟨false, decimal n, none, none⟩, []) := by
  unfold numeral?
  split
  next negative rest hsign =>
    split at hsign
    next cs hcs =>
      -- a minus sign is no digit
      have hdigit : '-'.isDigit = true := isDigit_of_mem_decimal (hcs ▸ List.mem_cons_self)
      exact absurd hdigit (by decide)
    next =>
      cases hsign
      rw [wholePart?_decimal]
      rfl

theorem numeral?_minus (n : Nat) :
    numeral? ('-' :: decimal n) = some (⟨true, decimal n, none, none⟩, []) := by
  show (wholePart? (decimal n) >>= _) = _
  rw [wholePart?_decimal]
  rfl

/-- Digits are added up as long as the number that they make fits. -/
theorem fitting_eq {m : Nat} (h : Nat.ofDigitChars 10 ds m < Nat.pow 2 64) :
    fitting m ds = (Nat.ofDigitChars 10 ds m, []) := by
  induction ds generalizing m with
  | nil => rfl
  | cons c ds ih =>
    rw [Nat.ofDigitChars_cons] at h ⊢
    have hnext : 10 * m + (c.toNat - '0'.toNat) < Nat.pow 2 64 := by
      have hle : 10 * m + (c.toNat - '0'.toNat) ≤
          Nat.ofDigitChars 10 ds (10 * m + (c.toNat - '0'.toNat)) := by
        rw [Nat.ofDigitChars_eq_ofDigitChars_zero]
        have hpos : 0 < 10 ^ ds.length := Nat.pow_pos (by decide)
        have hmul := Nat.le_mul_of_pos_left (10 * m + (c.toNat - '0'.toNat)) hpos
        omega
      exact Nat.lt_of_le_of_lt hle h
    unfold fitting
    dsimp only
    rw [if_pos hnext]
    exact ih h

theorem fitting_decimal (h : n < Nat.pow 2 64) : fitting 0 (decimal n) = (n, []) := by
  have hself : Nat.ofDigitChars 10 (decimal n) 0 = n := Nat.ofDigitChars_ten_toDigits
  rw [fitting_eq (hself.symm ▸ h), hself]

theorem value?_decimal (h : n < Nat.pow 2 64) :
    Numeral.value? ⟨false, decimal n, none, none⟩ = some (.integer n) := by
  unfold Numeral.value?
  dsimp only
  rw [fitting_decimal h]
  rfl

theorem value?_minus (hpos : 0 < n) (h : n ≤ Nat.pow 2 63) :
    Numeral.value? ⟨true, decimal n, none, none⟩ = some (.integer (-n)) := by
  have hpow : Nat.pow 2 63 < Nat.pow 2 64 := by decide
  have hfits : ¬ (n = 0 || Nat.pow 2 63 < n) = true := by
    rw [Bool.or_eq_true, decide_eq_true_iff, decide_eq_true_iff]
    omega
  unfold Numeral.value?
  dsimp only
  rw [fitting_decimal (by omega)]
  dsimp only
  rw [if_neg hfits]
  rfl

/-- What begins with a digit or a minus sign is a number. -/
theorem valueFrom_of_numeral (hc : c.isDigit = true ∨ c = '-') (fuel level : Nat) :
    valueFrom (fuel + 1) level (c :: cs) = (numeral? (c :: cs)).map fun (x, rest) =>
      ((x.value?.map Json.number).getD .unreadable, rest) := by
  have hne : ∀ d : Char, ¬ (d.isDigit = true ∨ d = '-') → c ≠ d := fun d hd heq => hd (heq ▸ hc)
  have hblank : skipBlank (c :: cs) = c :: cs := by
    have hspace := hne ' ' (by decide)
    have htab := hne '\t' (by decide)
    have hline := hne '\n' (by decide)
    have hreturn := hne '\r' (by decide)
    unfold skipBlank
    rw [List.dropWhile_cons_of_neg (by simp [hspace, htab, hline, hreturn])]
  unfold valueFrom
  rw [hblank]
  split
  case h_7 => rfl
  -- a container, a string or a word would begin with another character
  all_goals next heq => exact absurd (List.cons.inj heq).1 (hne _ (by decide))

theorem parse?_of_numeral {document : String} {x : Numeral} {v : Number}
    (hdocument : document.toList = c :: cs) (hc : c.isDigit = true ∨ c = '-')
    (hx : numeral? (c :: cs) = some (x, [])) (hv : x.value? = some v) :
    parse? document = some (.number v) := by
  unfold parse?
  dsimp only
  rw [hdocument, valueFrom_of_numeral hc, hx]
  show some ((x.value?.map Json.number).getD .unreadable) = _
  rw [hv]
  rfl

/-- **Integers of documents.** The text of an integer is read as the integer, from the least one
    of 64 bits with a sign up to the greatest one of 64 bits without. -/
theorem parse?_repr {n : Int} (hlow : -2 ^ 63 ≤ n) (hhigh : n < 2 ^ 64) :
    parse? n.repr = some (.number (.integer n)) := by
  have hpow : Nat.pow 2 63 = 2 ^ 63 ∧ Nat.pow 2 64 = 2 ^ 64 := ⟨rfl, rfl⟩
  cases n with
  | ofNat m =>
    have hm : m < Nat.pow 2 64 := by
      rw [Int.ofNat_eq_natCast] at hhigh
      omega
    cases hdecimal : decimal m with
    | nil => exact absurd hdecimal (decimal_ne_nil m)
    | cons c cs =>
      have hc : c.isDigit = true := isDigit_of_mem_decimal (hdecimal ▸ List.mem_cons_self)
      have htext : (Int.ofNat m).repr.toList = c :: cs := (toList_repr_ofNat m).trans hdecimal
      have hx : numeral? (c :: cs) = some (⟨false, decimal m, none, none⟩, []) :=
        hdecimal ▸ numeral?_decimal m
      exact parse?_of_numeral htext (.inl hc) hx (value?_decimal hm)
  | negSucc m =>
    have hm : m + 1 ≤ Nat.pow 2 63 := by omega
    exact parse?_of_numeral (toList_repr_negSucc m) (.inr rfl) (numeral?_minus (m + 1))
      (value?_minus (Nat.succ_pos m) hm)

end Json

end QueryComposer
