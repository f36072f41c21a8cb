import QueryComposer.Text.Utf8

/-! # UTF-8 reads back what it writes

    The bytes of a character lead the reader from between characters to between
    characters, and what it puts out on the way is that character.  A sequence of
    one to four bytes is followed byte by byte: the first one says how many are
    to come, each of the others adds six bits. -/

namespace QueryComposer.Text

/-! ## Section 1: One byte at a time -/

variable {n : Nat} {b : Begun} (bytes : List UInt8)

theorem toNat_ofNat_byte (h : n < 256) : (UInt8.ofNat n).toNat = n := by
  rw [UInt8.toNat_ofNat', Nat.mod_eq_of_lt h]

theorem decodeFrom_whole (h : n < 0x80) :
    decodeFrom none (UInt8.ofNat n :: bytes) = Char.ofNat n :: decodeFrom none bytes := by
  have hfirst : firstByte n = .whole (Char.ofNat n) := if_pos h
  rw [decodeFrom, toNat_ofNat_byte (by omega), hfirst]

theorem decodeFrom_begins (hn : n < 256) (h : firstByte n = .begins b) :
    decodeFrom none (UInt8.ofNat n :: bytes) = decodeFrom (some b) bytes := by
  rw [decodeFrom, toNat_ofNat_byte hn, h]

/-- A byte within the bounds adds its bits; others are still to come. -/
theorem decodeFrom_more (hlow : b.low ≤ n) (hhigh : n ≤ b.high) (hn : n < 256)
    (h : 1 < b.missing) : decodeFrom (some b) (UInt8.ofNat n :: bytes) =
      decodeFrom (some ⟨b.code * 0x40 + (n - 0x80), b.missing - 1, 0x80, 0xBF⟩) bytes := by
  have hbounds : (decide (b.low ≤ n) && decide (n ≤ b.high)) = true := by simp [hlow, hhigh]
  simp only [decodeFrom, toNat_ofNat_byte hn]
  rw [if_pos hbounds, if_neg (by omega)]

/-- The last byte completes the character. -/
theorem decodeFrom_last (hlow : b.low ≤ n) (hhigh : n ≤ b.high) (hn : n < 256)
    (h : b.missing ≤ 1) : decodeFrom (some b) (UInt8.ofNat n :: bytes) =
      Char.ofNat (b.code * 0x40 + (n - 0x80)) :: decodeFrom none bytes := by
  have hbounds : (decide (b.low ≤ n) && decide (n ≤ b.high)) = true := by simp [hlow, hhigh]
  simp only [decodeFrom, toNat_ofNat_byte hn]
  rw [if_pos hbounds, if_pos h]

/-! ## Section 2: One character at a time -/

theorem firstByte_of_two (hlow : 0xC2 ≤ n) (hhigh : n < 0xE0) :
    firstByte n = .begins ⟨n - 0xC0, 1, 0x80, 0xBF⟩ := by
  unfold firstByte
  rw [if_neg (by omega), if_neg (by omega), if_pos hhigh]

theorem firstByte_of_three (hlow : 0xE0 ≤ n) (hhigh : n < 0xF0) :
    firstByte n = .begins ⟨n - 0xE0, 2, if n = 0xE0 then 0xA0 else 0x80,
      if n = 0xED then 0x9F else 0xBF⟩ := by
  unfold firstByte
  rw [if_neg (by omega), if_neg (by omega), if_neg (by omega), if_pos hhigh]

theorem firstByte_of_four (hlow : 0xF0 ≤ n) (hhigh : n < 0xF5) :
    firstByte n = .begins ⟨n - 0xF0, 3, if n = 0xF0 then 0x90 else 0x80,
      if n = 0xF4 then 0x8F else 0xBF⟩ := by
  unfold firstByte
  rw [if_neg (by omega), if_neg (by omega), if_neg (by omega), if_neg (by omega), if_pos hhigh]

/-- Eleven bits, of which no seven would do, in two bytes. -/
theorem decodeFrom_two (hlow : 0x7F < n) (hhigh : n ≤ 0x7FF) :
    decodeFrom none (UInt8.ofNat (n / 64 % 0x20 + 0xC0) :: UInt8.ofNat (n % 0x40 + 0x80) :: bytes) =
      Char.ofNat n :: decodeFrom none bytes := by
  have hcode : (n / 64 % 0x20 + 0xC0 - 0xC0) * 0x40 + (n % 0x40 + 0x80 - 0x80) = n := by omega
  rw [decodeFrom_begins _ (by omega) (firstByte_of_two (by omega) (by omega)),
    decodeFrom_last]
  · rw [hcode]
  · show 0x80 ≤ n % 0x40 + 0x80
    omega
  · show n % 0x40 + 0x80 ≤ 0xBF
    omega
  · omega
  · exact Nat.le_refl 1

/-- Sixteen bits in three bytes: overlong forms and surrogates are what the bounds on the
    second byte keep out. -/
theorem decodeFrom_three (hlow : 0x7FF < n) (hhigh : n ≤ 0xFFFF)
    (hvalid : n < 0xD800 ∨ 0xDFFF < n) :
    decodeFrom none (UInt8.ofNat (n / 4096 % 0x10 + 0xE0) ::
        UInt8.ofNat (n / 64 % 0x40 + 0x80) :: UInt8.ofNat (n % 0x40 + 0x80) :: bytes) =
      Char.ofNat n :: decodeFrom none bytes := by
  have hcode : ((n / 4096 % 0x10 + 0xE0 - 0xE0) * 0x40 + (n / 64 % 0x40 + 0x80 - 0x80)) * 0x40
      + (n % 0x40 + 0x80 - 0x80) = n := by omega
  rw [decodeFrom_begins _ (by omega) (firstByte_of_three (by omega) (by omega)),
    decodeFrom_more, decodeFrom_last]
  · rw [hcode]
  · show 0x80 ≤ n % 0x40 + 0x80
    omega
  · show n % 0x40 + 0x80 ≤ 0xBF
    omega
  · omega
  · exact Nat.le_refl 1
  · show (if n / 4096 % 0x10 + 0xE0 = 0xE0 then 0xA0 else 0x80) ≤ n / 64 % 0x40 + 0x80
    split <;> omega
  · show n / 64 % 0x40 + 0x80 ≤ if n / 4096 % 0x10 + 0xE0 = 0xED then 0x9F else 0xBF
    split <;> omega
  · omega
  · exact Nat.lt_succ_self 1

/-- All other characters in four bytes: overlong forms and numbers beyond the last character
    are what the bounds on the second byte keep out. -/
theorem decodeFrom_four (hlow : 0xFFFF < n) (hhigh : n < 0x110000) :
    decodeFrom none (UInt8.ofNat (n / 262144 % 0x08 + 0xF0) ::
        UInt8.ofNat (n / 4096 % 0x40 + 0x80) :: UInt8.ofNat (n / 64 % 0x40 + 0x80) ::
        UInt8.ofNat (n % 0x40 + 0x80) :: bytes) =
      Char.ofNat n :: decodeFrom none bytes := by
  have hcode : (((n / 262144 % 0x08 + 0xF0 - 0xF0) * 0x40 + (n / 4096 % 0x40 + 0x80 - 0x80)) * 0x40
      + (n / 64 % 0x40 + 0x80 - 0x80)) * 0x40 + (n % 0x40 + 0x80 - 0x80) = n := by omega
  rw [decodeFrom_begins _ (by omega) (firstByte_of_four (by omega) (by omega)),
    decodeFrom_more, decodeFrom_more, decodeFrom_last]
  · rw [hcode]
  · show 0x80 ≤ n % 0x40 + 0x80
    omega
  · show n % 0x40 + 0x80 ≤ 0xBF
    omega
  · omega
  · exact Nat.le_refl 1
  · show 0x80 ≤ n / 64 % 0x40 + 0x80
    omega
  · show n / 64 % 0x40 + 0x80 ≤ 0xBF
    omega
  · omega
  · exact Nat.lt_succ_self 1
  · show (if n / 262144 % 0x08 + 0xF0 = 0xF0 then 0x90 else 0x80) ≤ n / 4096 % 0x40 + 0x80
    split <;> omega
  · show n / 4096 % 0x40 + 0x80 ≤ if n / 262144 % 0x08 + 0xF0 = 0xF4 then 0x8F else 0xBF
    split <;> omega
  · omega
  · show 1 < 3
    omega

/-- The reader puts out a character for its bytes and stands between characters again. -/
theorem decodeFrom_utf8EncodeChar (c : Char) :
    decodeFrom none (String.utf8EncodeChar c ++ bytes) = c :: decodeFrom none bytes := by
  have hvalid : c.toNat < 0xD800 ∨ 0xDFFF < c.toNat ∧ c.toNat < 0x110000 := c.valid
  have hback : Char.ofNat c.toNat = c := Char.ofNat_toNat c
  have hval : c.val.toNat = c.toNat := rfl
  unfold String.utf8EncodeChar
  simp only [hval]
  split
  next h1 => rw [List.singleton_append, decodeFrom_whole _ (by omega), hback]
  split
  next h1 h2 =>
    have htwo := decodeFrom_two bytes (by omega) h2
    rwa [hback] at htwo
  split
  next h1 h2 h3 =>
    have hthree := decodeFrom_three bytes (by omega) h3 (by omega)
    rwa [hback] at hthree
  next h1 h2 h3 =>
    have hfour := decodeFrom_four (n := c.toNat) bytes (by omega) (by omega)
    rwa [hback] at hfour

/-- The bytes of a text read as that text. -/
theorem decode_flatMap_utf8EncodeChar (cs : List Char) :
    decode (cs.flatMap String.utf8EncodeChar) = cs := by
  unfold decode
  induction cs with
  | nil => rfl
  | cons c cs ih => rw [List.flatMap_cons, decodeFrom_utf8EncodeChar, ih]

end QueryComposer.Text
