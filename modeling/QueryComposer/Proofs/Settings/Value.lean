import QueryComposer.Proofs.Text.Numeral
import QueryComposer.Settings.Environment
import QueryComposer.Settings.Value

/-! # What the text of a variable stands for

    A variable has a text, and the text may stand for a value of another type: one of
    the two words of truth, an integer, a double.  Such a text is made of letters,
    digits, signs and points alone.

    * `SettingValue.ofWord_eq_text`: any other character keeps the text a text.
    * `SettingValue.retyped` is the text that is given back in the place of a text.
    * `SettingValue.eq_of_limit?`: a text that spells a row limit, and that stands for
      one, stands for the one that it spells. -/

namespace QueryComposer

/-! ## Section 1: Characters of words and numerals -/

namespace Text

variable {c : Char} {cs : List Char}

/-- Whether a character can be part of a word of truth or of a number. -/
def typable (c : Char) : Bool := c.isAlphanum || c = '+' || c = '-' || c = '.'

/-- The text has no character that keeps it from being a word of truth or a number. -/
def Typable (cs : List Char) : Prop := ∀ c ∈ cs, typable c = true

theorem typable_of_isAlpha (h : c.isAlpha = true) : typable c = true := by
  simp [typable, Char.isAlphanum, h]

theorem typable_of_isDigit (h : c.isDigit = true) : typable c = true := by
  simp [typable, Char.isAlphanum, h]

theorem isAlpha_eq_false_of_typable (h : typable c = false) : c.isAlpha = false := by
  rw [Bool.eq_false_iff]
  intro halpha
  exact Bool.false_ne_true (h.symm.trans (typable_of_isAlpha halpha))

theorem toNat_of_isAlpha (h : c.isAlpha = true) :
    0x41 ≤ c.toNat ∧ c.toNat ≤ 0x5A ∨ 0x61 ≤ c.toNat ∧ c.toNat ≤ 0x7A := by
  rcases (Bool.or_eq_true _ _).mp h with hupper | hlower
  · obtain ⟨hlow, hhigh⟩ : c.val ≥ 'A'.val ∧ c.val ≤ 'Z'.val := of_decide_eq_true hupper
    exact .inl ⟨UInt32.le_iff_toNat_le.mp hlow, UInt32.le_iff_toNat_le.mp hhigh⟩
  · obtain ⟨hlow, hhigh⟩ := (Bool.and_eq_true _ _).mp hlower
    exact .inr ⟨UInt32.le_iff_toNat_le.mp (of_decide_eq_true hlow),
      UInt32.le_iff_toNat_le.mp (of_decide_eq_true hhigh)⟩

/-- White space is no letter, no digit, no sign and no point. -/
theorem typable_eq_false_of_isBlank (h : isBlank c = true) : typable c = false := by
  have hsigns : c ≠ '+' ∧ c ≠ '-' ∧ c ≠ '.' := by
    refine ⟨?_, ?_, ?_⟩ <;> rintro rfl <;> exact absurd h (by decide)
  have hdigit : c.isDigit = false := by
    rw [Bool.eq_false_iff]
    intro hc
    exact Bool.false_ne_true ((isBlank_of_isDigit hc).symm.trans h)
  have halpha : c.isAlpha = false := by
    rw [Bool.eq_false_iff]
    intro hc
    have hcode := toNat_of_isAlpha hc
    simp [isBlank] at h
    omega
  simp [typable, Char.isAlphanum, hdigit, halpha, hsigns]

theorem isAlpha_eq_false_of_isDigit (h : c.isDigit = true) : c.isAlpha = false := by
  have hdigit : 0x30 ≤ c.toNat ∧ c.toNat ≤ 0x39 := by
    simpa [Char.isDigit, UInt32.le_iff_toNat_le] using h
  rw [Bool.eq_false_iff]
  intro hc
  have halpha := toNat_of_isAlpha hc
  omega

theorem isAlpha_of_toLower (h : c.toLower.isAlpha = true) : c.isAlpha = true := by
  unfold Char.toLower at h
  split at h
  next hupper =>
    have hc : c.isUpper = true := decide_eq_true hupper
    exact (Bool.or_eq_true _ _).mpr (.inl hc)
  next => exact h

theorem Typable.cons (hc : typable c = true) (h : Typable cs) : Typable (c :: cs) :=
  List.forall_mem_cons.mpr ⟨hc, h⟩

theorem typable_of_natural? {n : Nat} (h : natural? cs = some n) : Typable cs := by
  unfold natural? at h
  split at h
  next hdigits =>
    intro c hc
    exact typable_of_isDigit ((isDigits_iff.mp hdigits).2 c hc)
  next => cases h

theorem typable_of_naturalBelow? {bound n : Nat} (h : naturalBelow? bound cs = some n) :
    Typable cs := by
  obtain ⟨-, hdigits, -⟩ := naturalBelow?_eq_some.mp h
  exact fun c hc => typable_of_isDigit (hdigits c hc)

theorem typable_of_unsignedBelow? {bound n : Nat} (h : unsignedBelow? bound cs = some n) :
    Typable cs := by
  obtain ⟨sign, digits, rfl, hsign, hdigits⟩ := unsignedBelow?_eq_some.mp h
  rcases hsign with rfl | rfl
  · exact typable_of_naturalBelow? hdigits
  · exact (typable_of_naturalBelow? hdigits).cons rfl

theorem typable_of_integer? {n : Int} (h : integer? cs = some n) : Typable cs := by
  unfold integer? at h
  split at h
  all_goals obtain ⟨m, hm, -⟩ := Option.map_eq_some_iff.mp h
  · -- behind a minus sign the number becomes an integer before it is negated
    obtain ⟨digits, hdigits, -⟩ := Option.bind_eq_some_iff.mp hm
    exact (typable_of_natural? hdigits).cons rfl
  · exact (typable_of_natural? hm).cons rfl
  · exact typable_of_natural? hm

theorem typable_of_integer64? {n : Int} (h : integer64? cs = some n) : Typable cs := by
  unfold integer64? at h
  split at h
  all_goals obtain ⟨m, hm, -⟩ := Option.map_eq_some_iff.mp h
  · obtain ⟨digits, hdigits, -⟩ := Option.bind_eq_some_iff.mp hm
    exact (typable_of_naturalBelow? hdigits).cons rfl
  · exact (typable_of_naturalBelow? hm).cons rfl
  · exact typable_of_naturalBelow? hm

end Text

namespace Extended

open Text

variable {cs : List Char} {negative : Bool} {x : Extended}

theorem typable_of_power? {p : Int} (h : power? cs = some p) : Typable cs := by
  unfold power? at h
  split at h
  next =>
    intro c hc
    cases hc
  next c cs =>
    split at h
    next he =>
      have hc : typable c = true := by
        rcases (Bool.or_eq_true _ _).mp he with hsmall | hlarge
        · rw [of_decide_eq_true hsmall]
          decide
        · rw [of_decide_eq_true hlarge]
          decide
      exact (typable_of_integer? h).cons hc
    next => cases h

/-- A text is typable if what stands behind its first digits is. -/
theorem typable_of_dropWhile (h : Typable (cs.dropWhile Char.isDigit)) : Typable cs := by
  intro c hc
  rw [← List.takeWhile_append_dropWhile (p := Char.isDigit) (l := cs)] at hc
  rcases List.mem_append.mp hc with hdigit | hrest
  · exact typable_of_isDigit (List.mem_takeWhile_imp hdigit)
  · exact h c hrest

theorem typable_of_decimal? {d : Decimal} (h : decimal? cs = some d) : Typable cs := by
  apply typable_of_dropWhile
  obtain ⟨-, h⟩ := Option.ite_none_left_eq_some.mp h
  obtain ⟨p, hp, -⟩ := Option.map_eq_some_iff.mp h
  have hpower := typable_of_power? hp
  split at hpower
  next after hafter =>
    -- between the point and the power stand the digits of the fraction
    rw [hafter]
    exact (typable_of_dropWhile hpower).cons rfl
  next => exact hpower

/-- A text that is a word of letters, but for their case, is made of letters. -/
theorem typable_of_map_toLower {word : String} (h : String.ofList (cs.map Char.toLower) = word)
    (hword : word.toList.all Char.isAlpha = true) : Typable cs := by
  intro c hc
  have hmem : c.toLower ∈ word.toList := by
    rw [← h, String.toList_ofList]
    exact List.mem_map_of_mem hc
  exact typable_of_isAlpha (isAlpha_of_toLower (List.all_eq_true.mp hword _ hmem))

theorem typable_of_magnitude? (h : magnitude? negative cs = some x) : Typable cs := by
  unfold magnitude? at h
  split at h
  next hword => exact typable_of_map_toLower hword (by decide)
  next hword => exact typable_of_map_toLower hword (by decide)
  next hword => exact typable_of_map_toLower hword (by decide)
  next =>
    obtain ⟨d, hd, -⟩ := Option.map_eq_some_iff.mp h
    exact typable_of_decimal? hd

theorem typable_of_ofText? (h : ofText? cs = some x) : Typable cs := by
  unfold ofText? at h
  split at h
  next => exact (typable_of_magnitude? h).cons rfl
  next => exact (typable_of_magnitude? h).cons rfl
  next => exact typable_of_magnitude? h

end Extended

namespace SettingValue

open Text

variable {word : String} {c : Char} {n m : Nat}

/-! ## Section 2: Texts that stay texts -/

/-- A text with a character that is no letter does not become a word of letters by taking the
    small ones, if the word is without a k. -/
theorem small_ne (hc : c ∈ word.toList) (h : c.isAlpha = false) {s : String}
    (hs : s.toList.all (fun c => c.isAlpha && c ≠ 'k') = true) : small word ≠ s := by
  intro heq
  have hmem : smallLetter c ∈ s.toList := by
    rw [← heq, small, String.toList_ofList]
    exact List.mem_map_of_mem hc
  have hsmall := List.all_eq_true.mp hs _ hmem
  rw [Bool.and_eq_true, decide_eq_true_iff] at hsmall
  unfold smallLetter at hsmall
  by_cases hkelvin : c = '\u212A'
  · -- the sign of the kelvin is no letter of ASCII, but its small form is
    rw [if_pos hkelvin] at hsmall
    exact absurd rfl hsmall.2
  · rw [if_neg hkelvin] at hsmall
    exact Bool.false_ne_true (h.symm.trans (isAlpha_of_toLower hsmall.1))

/-- **Texts stay texts.** A text with a character that is no letter, no digit, no sign and
    no point stands for itself. -/
theorem ofWord_eq_text (hc : c ∈ word.toList) (h : typable c = false) :
    ofWord word = .text word := by
  have hletter := isAlpha_eq_false_of_typable h
  have hnot : ¬ Typable word.toList := by
    intro htypable
    exact Bool.false_ne_true (h.symm.trans (htypable c hc))
  -- of the readers that are tried one after another, none takes the character
  unfold ofWord
  split
  next hsmall => exact absurd hsmall (small_ne hc hletter (by decide))
  next hsmall => exact absurd hsmall (small_ne hc hletter (by decide))
  next =>
    cases hinteger : integer64? word.toList with
    | some i => exact absurd (typable_of_integer64? hinteger) hnot
    | none =>
      cases hreal : Extended.ofText? word.toList with
      | some x => exact absurd (Extended.typable_of_ofText? hreal) hnot
      | none => rfl

/-- The text of what a text stands for: of a number, for one, the numeral without the zeros
    in front. -/
def retyped (word : String) : String := (ofWord word).text?.getD word

/-- What the text of a variable stands for can be a text again. -/
theorem text?_ofWord (word : String) : (ofWord word).text? = some (retyped word) := by
  have hsome : ∃ s, (ofWord word).text? = some s := by
    -- only nothing, lists and tables have no text, and no text stands for those
    unfold ofWord
    split
    next => exact ⟨"true", rfl⟩
    next => exact ⟨"false", rfl⟩
    next =>
      cases integer64? word.toList with
      | some i => exact ⟨_, rfl⟩
      | none =>
        cases Extended.ofText? word.toList with
        | some x => exact ⟨_, rfl⟩
        | none => exact ⟨word, rfl⟩
  obtain ⟨s, hs⟩ := hsome
  rw [retyped, hs]
  rfl

theorem retyped_of_mem (hc : c ∈ word.toList) (h : typable c = false) : retyped word = word := by
  rw [retyped, ofWord_eq_text hc h]
  rfl

/-! ## Section 3: Row limits -/

theorem ofWord_eq_whole {sign digits : List Char} (hword : word.toList = sign ++ digits)
    (hsign : sign = [] ∨ sign = ['+']) (h : naturalBelow? (Nat.pow 2 63) digits = some n) :
    ofWord word = .whole n := by
  obtain ⟨hne, hdigits, -⟩ := naturalBelow?_eq_some.mp h
  obtain ⟨d, hd⟩ := List.exists_mem_of_ne_nil digits hne
  have hmem : d ∈ word.toList := hword ▸ List.mem_append_right sign hd
  have hletter := isAlpha_eq_false_of_isDigit (hdigits d hd)
  unfold ofWord
  split
  next hsmall => exact absurd hsmall (small_ne hmem hletter (by decide))
  next hsmall => exact absurd hsmall (small_ne hmem hletter (by decide))
  next => rw [hword, integer64?_of_sign hsign h]

/-- A text with white space in it stands for no row limit. -/
theorem limit?_of_isBlank (hc : c ∈ word.toList) (h : isBlank c = true) :
    (ofWord word).limit? = none := by
  have htypable := typable_eq_false_of_isBlank h
  have hletter := isAlpha_eq_false_of_typable htypable
  have hnumber : unsignedBelow? (Nat.pow 2 64) word.toList = none := by
    rw [Option.eq_none_iff_forall_ne_some]
    intro i hi
    have hspelled := typable_of_unsignedBelow? hi
    exact Bool.false_ne_true (htypable.symm.trans (hspelled c hc))
  have hnatural : naturalOfText? word = none := by
    unfold naturalOfText?
    split
    -- the words for yes and no are made of letters
    case h_7 => exact hnumber
    all_goals next hsmall => exact absurd hsmall (small_ne hc hletter (by decide))
  rw [ofWord_eq_text hc htypable]
  show (naturalOfText? word).filter _ = none
  rw [hnatural]
  rfl

/-- **One row limit.** What a text spells and what it stands for are not two different row
    limits. -/
theorem eq_of_limit? (h : SpelledBelow (Nat.pow 2 32) word.toList n)
    (hlimit : (ofWord word).limit? = some m) : m = n := by
  have hnone : ∀ c ∈ word.toList, isBlank c ≠ true := by
    intro c hc hblank
    rw [limit?_of_isBlank hc hblank] at hlimit
    cases hlimit
  generalize hword : word.toList = cs at h hnone
  cases h with
  | @intro before sign digits after hbefore hafter hsign hne hdigits hlt =>
    -- no white space around the number, so the text is the number
    have hbefore' : before = [] :=
      List.eq_nil_iff_forall_not_mem.mpr fun c hc =>
        hnone c (List.mem_append_left _ hc) (hbefore c hc)
    have hafter' : after = [] :=
      List.eq_nil_iff_forall_not_mem.mpr fun c hc =>
        hnone c (List.mem_append_right _ (List.mem_append_right _ hc)) (hafter c hc)
    rw [hbefore', hafter', List.nil_append, List.append_nil] at hword
    have hbound : Nat.ofDigitChars 10 digits 0 < Nat.pow 2 63 := Nat.lt_trans hlt (by decide)
    have hnumber := naturalBelow?_eq_some.mpr ⟨hne, hdigits, rfl, hbound⟩
    rw [ofWord_eq_whole hword hsign hnumber] at hlimit
    obtain ⟨hnatural, -⟩ := Option.filter_eq_some_iff.mp hlimit
    exact (Option.some.inj hnatural).symm

end SettingValue

end QueryComposer
