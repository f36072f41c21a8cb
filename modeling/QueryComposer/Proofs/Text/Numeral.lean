import Mathlib.Algebra.Group.Int.Defs
import Mathlib.Algebra.Group.Nat.Defs
import Mathlib.Data.List.TakeWhile
import QueryComposer.Proofs.Text.Cut

/-! # Numerals with signs and white space

    A user types a number with a sign in front of it and with white space around it,
    and a program writes one with a minus sign where it needs one.

    * `SpelledBelow` says which texts spell a natural number below a bound, and
      `unsignedBelow?_trim_eq_some` that these are the texts that are read as one.
    * `integer64?_repr`: which numerals of integers are read. -/

namespace QueryComposer.Text

/-! ## Section 1: White space around a text -/

variable {before core after cs : List Char} {bound n : Nat}

theorem trimLeft_append (h : ∀ c ∈ before, isBlank c = true) :
    trimLeft (before ++ cs) = trimLeft cs := List.dropWhile_append_of_pos h

/-- White space is taken off both ends of a text that has none in it. -/
theorem trim_padded (hbefore : ∀ c ∈ before, isBlank c = true)
    (hcore : ∀ c ∈ core, isBlank c = false) (hafter : ∀ c ∈ after, isBlank c = true) :
    trim (before ++ (core ++ after)) = core := by
  have hafter' : ∀ c ∈ after.reverse, isBlank c = true :=
    fun c hc => hafter c (List.mem_reverse.mp hc)
  have hcore' : ∀ c ∈ core.reverse, isBlank c = false :=
    fun c hc => hcore c (List.mem_reverse.mp hc)
  unfold trim
  rw [trimLeft_append hbefore]
  cases core with
  | nil =>
    have hnil : trimLeft after = [] := by
      rw [← List.append_nil after, trimLeft_append hafter]
      rfl
    rw [List.nil_append, hnil]
    rfl
  | cons c core =>
    -- the text begins with no white space, so nothing more goes at this end
    have hself : trimLeft (c :: core ++ after) = c :: core ++ after := by
      rw [List.cons_append, trimLeft, List.dropWhile_cons, hcore c List.mem_cons_self,
        if_neg Bool.false_ne_true]
    rw [hself, trimRight, List.reverse_append, trimLeft_append hafter', trimLeft_eq_self hcore',
      List.reverse_reverse]

/-- What trimming takes off is white space. -/
theorem exists_eq_append_trim (cs : List Char) : ∃ before after,
    (∀ c ∈ before, isBlank c = true) ∧ (∀ c ∈ after, isBlank c = true) ∧
      cs = before ++ (trim cs ++ after) := by
  have hfront : cs.takeWhile isBlank ++ trimLeft cs = cs := List.takeWhile_append_dropWhile
  have hend : (trimLeft cs).reverse.takeWhile isBlank ++ trimLeft (trimLeft cs).reverse =
      (trimLeft cs).reverse := List.takeWhile_append_dropWhile
  refine ⟨cs.takeWhile isBlank, ((trimLeft cs).reverse.takeWhile isBlank).reverse, ?_, ?_, ?_⟩
  · intro c hc
    exact List.mem_takeWhile_imp hc
  · intro c hc
    exact List.mem_takeWhile_imp (List.mem_reverse.mp hc)
  · have hrest : trim cs ++ ((trimLeft cs).reverse.takeWhile isBlank).reverse = trimLeft cs := by
      rw [trim, trimRight, ← List.reverse_append, hend, List.reverse_reverse]
    rw [hrest, hfront]

/-! ## Section 2: Natural numbers -/

/-- The text spells a number below the bound: digits with a plus sign in front of them, or
    none, and with white space around them. -/
inductive SpelledBelow (bound : Nat) : List Char → Nat → Prop where
  | intro {before sign digits after : List Char} :
      (∀ c ∈ before, isBlank c = true) → (∀ c ∈ after, isBlank c = true) →
      sign = [] ∨ sign = ['+'] → digits ≠ [] → (∀ c ∈ digits, c.isDigit = true) →
      Nat.ofDigitChars 10 digits 0 < bound →
      SpelledBelow bound (before ++ (sign ++ digits ++ after)) (Nat.ofDigitChars 10 digits 0)

theorem unsignedBelow?_eq_some : unsignedBelow? bound cs = some n ↔
    ∃ sign digits, cs = sign ++ digits ∧ (sign = [] ∨ sign = ['+']) ∧
      naturalBelow? bound digits = some n := by
  constructor
  · intro h
    unfold unsignedBelow? at h
    split at h
    next digits => exact ⟨['+'], digits, rfl, .inr rfl, h⟩
    next => exact ⟨[], cs, rfl, .inl rfl, h⟩
  · intro ⟨sign, digits, hcs, hsign, h⟩
    rcases hsign with rfl | rfl
    · obtain ⟨-, hdigits, -⟩ := naturalBelow?_eq_some.mp h
      rw [hcs, List.nil_append]
      unfold unsignedBelow?
      split
      next =>
        -- a plus sign is no digit
        exact absurd (hdigits '+' List.mem_cons_self) (by decide)
      next => exact h
    · rw [hcs]
      exact h

theorem unsignedBelow?_trim_eq_some :
    unsignedBelow? bound (trim cs) = some n ↔ SpelledBelow bound cs n := by
  rw [unsignedBelow?_eq_some]
  constructor
  · intro ⟨sign, digits, htrim, hsign, h⟩
    obtain ⟨hne, hdigits, rfl, hlt⟩ := naturalBelow?_eq_some.mp h
    obtain ⟨before, after, hbefore, hafter, hcs⟩ := exists_eq_append_trim cs
    rw [htrim] at hcs
    rw [hcs]
    exact .intro hbefore hafter hsign hne hdigits hlt
  · intro h
    cases h with
    | @intro before sign digits after hbefore hafter hsign hne hdigits hlt =>
      have hcore : ∀ c ∈ sign ++ digits, isBlank c = false := by
        intro c hc
        rcases List.mem_append.mp hc with hc | hc
        · rcases hsign with rfl | rfl
          · cases hc
          · rw [List.mem_singleton.mp hc]
            decide
        · exact isBlank_of_isDigit (hdigits c hc)
      exact ⟨sign, digits, trim_padded hbefore hcore hafter, hsign,
        naturalBelow?_eq_some.mpr ⟨hne, hdigits, rfl, hlt⟩⟩

/-- There are no zeros in front of the numeral of a natural number. -/
theorem head?_decimal_ne (h : n ≠ 0) : (decimal n).head? ≠ some '0' := by
  induction n using Nat.strongRecOn with
  | ind n ih =>
    unfold decimal at ih ⊢
    by_cases hn : n < 10
    · have hdigit : ∀ m < 10, m ≠ 0 → Nat.digitChar m ≠ '0' := by decide
      rw [Nat.toDigits_of_lt_base hn, List.head?_cons]
      exact fun heq => hdigit n hn h (Option.some.inj heq)
    · have hlt : n / 10 < n := by omega
      have hrest : n / 10 ≠ 0 := by omega
      have hhead := ih (n / 10) hlt hrest
      rw [Nat.toDigits_of_base_le (by decide) (by omega)]
      cases hdigits : Nat.toDigits 10 (n / 10) with
      | nil => exact absurd hdigits Nat.toDigits_ne_nil
      | cons d ds =>
        rw [hdigits] at hhead
        exact hhead

/-! ## Section 3: Integers -/

/-- A number is read from digits with a plus sign in front of them or none. -/
theorem integer64?_of_sign {sign digits : List Char} (hsign : sign = [] ∨ sign = ['+'])
    (h : naturalBelow? (Nat.pow 2 63) digits = some n) :
    integer64? (sign ++ digits) = some (n : Int) := by
  obtain ⟨-, hdigits, -⟩ := naturalBelow?_eq_some.mp h
  rcases hsign with rfl | rfl
  · rw [List.nil_append, integer64?_of_isDigit hdigits, h]
    rfl
  · show (naturalBelow? (Nat.pow 2 63) digits).map Int.ofNat = _
    rw [h]
    rfl

theorem toList_repr_ofNat (n : Nat) : (Int.ofNat n).repr.toList = decimal n := Nat.toList_repr

theorem toList_repr_negSucc (n : Nat) : (Int.negSucc n).repr.toList = '-' :: decimal (n + 1) := by
  show ("-" ++ (n + 1).repr).toList = _
  rw [String.toList_append, Nat.toList_repr]
  rfl

/-- There is no white space in the numeral of an integer. -/
theorem trim_repr (n : Int) : trim n.repr.toList = n.repr.toList := by
  have hdigits : ∀ m, ∀ c ∈ decimal m, isBlank c = false :=
    fun m c hc => isBlank_of_isDigit (isDigit_of_mem_decimal hc)
  apply trim_eq_self
  cases n with
  | ofNat m =>
    rw [toList_repr_ofNat]
    exact hdigits m
  | negSucc m =>
    rw [toList_repr_negSucc, List.forall_mem_cons]
    exact ⟨by decide, hdigits (m + 1)⟩

/-- Of the numerals down to `-2^63` those below `2^63` are read, each as its integer. -/
theorem integer64?_repr {n : Int} (hlow : -2 ^ 63 ≤ n) :
    integer64? n.repr.toList = if n < 2 ^ 63 then some n else none := by
  have hpow : Nat.pow 2 63 = 2 ^ 63 := rfl
  cases n with
  | ofNat m =>
    rw [toList_repr_ofNat]
    by_cases hm : m < Nat.pow 2 63
    · have hn : Int.ofNat m < 2 ^ 63 := by
        rw [Int.ofNat_eq_natCast]
        omega
      rw [integer64?_decimal hm, if_pos hn]
      rfl
    · have hn : ¬ Int.ofNat m < 2 ^ 63 := by
        rw [Int.ofNat_eq_natCast]
        omega
      rw [if_neg hn, integer64?_decimal_eq_none (by omega)]
  | negSucc m =>
    have hm : m + 1 < Nat.pow 2 63 + 1 := by omega
    have hn : Int.negSucc m < 2 ^ 63 := by omega
    rw [toList_repr_negSucc, if_pos hn, integer64?, naturalBelow?_decimal hm]
    rfl

end QueryComposer.Text
