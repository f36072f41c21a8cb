import QueryComposer.Text.Blank
import QueryComposer.Text.Cut
import QueryComposer.Text.Numeral

/-! # Cuts and joins

    Text that was put together from pieces around a separator comes apart into
    the same pieces, as long as no piece has the separator in it.  Each kind of
    cut is characterised by what it leaves behind: a cut at the last character
    of a class leaves none of the class after it.  Numerals are pieces without
    separators, and read as the number they were written for. -/

namespace QueryComposer.Text

/-! ## Section 1: The first and the last separator -/

variable {before after cs : List Char} {sep : Char} {p : Char → Bool}

theorem cutFirst_append (h : sep ∉ before) :
    cutFirst sep (before ++ sep :: after) = some (before, after) := by
  induction before with
  | nil => simp [cutFirst]
  | cons c before ih =>
    rw [List.mem_cons, not_or] at h
    simp [cutFirst, Ne.symm h.1, ih h.2]

/-- The first separator is the one with none in front of it. -/
theorem cutFirst_eq_some : cutFirst sep cs = some (before, after) ↔
    sep ∉ before ∧ cs = before ++ sep :: after := by
  constructor
  · intro h
    induction cs generalizing before with
    | nil => cases h
    | cons c cs ih =>
      rw [cutFirst] at h
      by_cases hc : c = sep
      · rw [if_pos hc] at h
        cases h
        exact ⟨List.not_mem_nil, by rw [hc, List.nil_append]⟩
      · rw [if_neg hc, Option.map_eq_some_iff] at h
        obtain ⟨⟨b, a⟩, hcut, heq⟩ := h
        cases heq
        obtain ⟨hb, rfl⟩ := ih hcut
        exact ⟨by simp [hb, Ne.symm hc], rfl⟩
  · intro ⟨hbefore, hcs⟩
    rw [hcs]
    exact cutFirst_append hbefore

theorem cutFirst_eq_none : cutFirst sep cs = none ↔ sep ∉ cs := by
  induction cs with
  | nil => simp [cutFirst]
  | cons c cs ih =>
    rw [cutFirst, List.mem_cons, not_or, ← ih]
    by_cases hc : c = sep
    · simp [hc]
    · simp [hc, Ne.symm hc]

theorem cutLast_eq_none : cutLast p cs = none ↔ ∀ c ∈ cs, p c = false := by
  induction cs with
  | nil => simp [cutLast]
  | cons c cs ih =>
    rw [List.forall_mem_cons, ← ih, cutLast]
    cases cutLast p cs with
    | none => cases p c <;> simp
    | some cut => simp

theorem cutLast_append (hsep : p sep = true) (hafter : ∀ c ∈ after, p c = false) :
    cutLast p (before ++ sep :: after) = some (before, sep, after) := by
  induction before with
  | nil =>
    rw [List.nil_append, cutLast, cutLast_eq_none.mpr hafter]
    exact if_pos hsep
  | cons c before ih =>
    rw [List.cons_append, cutLast, ih]

/-- The last separator is the one with none behind it. -/
theorem cutLast_eq_some : cutLast p cs = some (before, sep, after) ↔
    cs = before ++ sep :: after ∧ p sep = true ∧ ∀ c ∈ after, p c = false := by
  constructor
  · intro h
    induction cs generalizing before with
    | nil => cases h
    | cons c cs ih =>
      rw [cutLast] at h
      split at h
      next b x a hcut =>
        cases h
        obtain ⟨rfl, hsep, hafter⟩ := ih hcut
        exact ⟨rfl, hsep, hafter⟩
      next hnone =>
        split at h
        next hc =>
          cases h
          exact ⟨rfl, hc, cutLast_eq_none.mp hnone⟩
        next => cases h
  · intro ⟨heq, hsep, hafter⟩
    rw [heq]
    exact cutLast_append hsep hafter

/-! ## Section 2: Every separator -/

/-- The pieces between separators that are not empty. -/
def pieces (sep : Char) (cs : List Char) : List (List Char) :=
  (cs.splitOn sep).filter (!·.isEmpty)

/-- Pieces joined by the separator are found again. -/
theorem pieces_intercalate {ps : List (List Char)} (hsep : ∀ p ∈ ps, sep ∉ p)
    (hne : ∀ p ∈ ps, p ≠ []) : pieces sep ([sep].intercalate ps) = ps := by
  unfold pieces
  cases ps with
  | nil => rfl
  | cons q qs =>
    rw [List.splitOn_intercalate sep hsep (List.cons_ne_nil q qs), List.filter_eq_self]
    intro p hp
    simp [hne p hp]

theorem not_mem_of_mem_splitOn {piece : List Char} (h : piece ∈ cs.splitOn sep) : sep ∉ piece := by
  induction cs generalizing piece with
  | nil =>
    rw [List.splitOn_nil, List.mem_singleton] at h
    simp [h]
  | cons c cs ih =>
    rw [List.splitOn_cons_eq_if_modifyHead] at h
    split at h
    next =>
      rcases List.mem_cons.mp h with rfl | h
      · exact List.not_mem_nil
      · exact ih h
    next hc =>
      obtain ⟨q, qs, hq⟩ := List.exists_cons_of_ne_nil (List.splitOn_ne_nil sep cs)
      rw [hq] at h
      have hne : sep ≠ c := fun heq => hc (beq_iff_eq.mpr heq.symm)
      rcases List.mem_cons.mp h with rfl | h
      · rw [List.mem_cons, not_or]
        exact ⟨hne, ih (hq ▸ List.mem_cons_self)⟩
      · exact ih (hq ▸ List.mem_cons_of_mem q h)

theorem mem_pieces {piece : List Char} (h : piece ∈ pieces sep cs) :
    piece ≠ [] ∧ sep ∉ piece := by
  obtain ⟨hmem, hne⟩ := List.mem_filter.mp h
  exact ⟨by simpa using hne, not_mem_of_mem_splitOn hmem⟩

/-- Each piece takes up a character of the text. -/
theorem length_pieces_le (sep : Char) (cs : List Char) : (pieces sep cs).length ≤ cs.length := by
  unfold pieces
  induction cs with
  | nil => simp
  | cons c cs ih =>
    rw [List.splitOn_cons_eq_if_modifyHead]
    split
    next => simpa using Nat.le_succ_of_le ih
    next =>
      obtain ⟨q, qs, hq⟩ := List.exists_cons_of_ne_nil (List.splitOn_ne_nil sep cs)
      rw [hq] at ih ⊢
      have hle := List.length_filter_le (fun p : List Char => !p.isEmpty) qs
      rw [List.filter_cons] at ih
      rw [List.modifyHead_cons, List.filter_cons]
      split at ih <;> simp at ih ⊢ <;> omega

/-! ## Section 3: Numerals -/

theorem isDigit_of_mem_decimal {n : Nat} {c : Char} (h : c ∈ decimal n) : c.isDigit = true :=
  Nat.isDigit_of_mem_toDigits (by decide) (by decide) h

theorem decimal_ne_nil (n : Nat) : decimal n ≠ [] := Nat.toDigits_ne_nil

theorem isDigits_iff {digits : List Char} :
    isDigits digits = true ↔ digits ≠ [] ∧ ∀ c ∈ digits, c.isDigit = true := by
  simp [isDigits]

/-- A number is read from one or more digits, if it lies below the bound. -/
theorem naturalBelow?_eq_some {bound n : Nat} {digits : List Char} :
    naturalBelow? bound digits = some n ↔ digits ≠ [] ∧ (∀ c ∈ digits, c.isDigit = true) ∧
      Nat.ofDigitChars 10 digits 0 = n ∧ n < bound := by
  unfold naturalBelow? natural?
  rw [← and_assoc, ← isDigits_iff]
  by_cases hdigits : isDigits digits = true
  · rw [if_pos hdigits]
    simp only [hdigits, true_and, Option.filter_eq_some_iff, Option.some.injEq, decide_eq_true_eq]
  · rw [if_neg hdigits]
    simp [hdigits]

/-- A numeral reads as its number, which has to lie below the bound. -/
theorem naturalBelow?_decimal {bound n : Nat} (h : n < bound) :
    naturalBelow? bound (decimal n) = some n := by
  rw [naturalBelow?_eq_some]
  exact ⟨decimal_ne_nil n, fun c hc => isDigit_of_mem_decimal hc, Nat.ofDigitChars_ten_toDigits, h⟩

theorem naturalBelow?_decimal_eq_none {bound n : Nat} (h : bound ≤ n) :
    naturalBelow? bound (decimal n) = none := by
  rw [Option.eq_none_iff_forall_ne_some]
  intro m hm
  obtain ⟨-, -, hvalue, hlt⟩ := naturalBelow?_eq_some.mp hm
  have hself : Nat.ofDigitChars 10 (decimal n) 0 = n := Nat.ofDigitChars_ten_toDigits
  omega

theorem isBlank_of_isDigit {c : Char} (h : c.isDigit = true) : isBlank c = false := by
  have hbounds : 0x30 ≤ c.toNat ∧ c.toNat ≤ 0x39 := by
    simpa [Char.isDigit, UInt32.le_iff_toNat_le] using h
  simp [isBlank]
  omega

theorem trimLeft_eq_self (h : ∀ c ∈ cs, isBlank c = false) : trimLeft cs = cs := by
  unfold trimLeft
  cases cs with
  | nil => rfl
  | cons c cs => rw [List.dropWhile_cons, h c List.mem_cons_self, if_neg Bool.false_ne_true]

/-- Text without white space has none at its ends. -/
theorem trim_eq_self (h : ∀ c ∈ cs, isBlank c = false) : trim cs = cs := by
  unfold trim trimRight
  have hreverse : ∀ c ∈ cs.reverse, isBlank c = false := fun c hc => h c (List.mem_reverse.mp hc)
  rw [trimLeft_eq_self h, trimLeft_eq_self hreverse, List.reverse_reverse]

/-- There is no sign in front of digits. -/
theorem integer64?_of_isDigit {digits : List Char} (h : ∀ c ∈ digits, c.isDigit = true) :
    integer64? digits = (naturalBelow? (Nat.pow 2 63) digits).map Int.ofNat := by
  have hsign : ∀ c rest, c.isDigit = false → digits ≠ c :: rest := by
    intro c rest hc heq
    have hdigit : c.isDigit = true := h c (heq ▸ List.mem_cons_self)
    rw [hc] at hdigit
    cases hdigit
  unfold integer64?
  split
  next rest => exact absurd rfl (hsign '-' rest (by decide))
  next rest => exact absurd rfl (hsign '+' rest (by decide))
  next => rfl

/-- A numeral without sign reads as its number. -/
theorem integer64?_decimal {n : Nat} (h : n < Nat.pow 2 63) :
    integer64? (decimal n) = some (n : Int) := by
  rw [integer64?_of_isDigit (fun _ => isDigit_of_mem_decimal), naturalBelow?_decimal h]
  rfl

theorem integer64?_decimal_eq_none {n : Nat} (h : Nat.pow 2 63 ≤ n) :
    integer64? (decimal n) = none := by
  rw [integer64?_of_isDigit (fun _ => isDigit_of_mem_decimal), naturalBelow?_decimal_eq_none h]
  rfl

end QueryComposer.Text
