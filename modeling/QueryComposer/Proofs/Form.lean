import Mathlib.Data.List.Basic
import QueryComposer.Form
import QueryComposer.Proofs.Text.Cut
import QueryComposer.Proofs.Text.Utf8

/-! # Form-encoded pairs survive

    Pairs of any texts are read back from what was written for them, in their
    order.  The codec is taken layer by layer: a byte is read back from its two
    digits, a character from its bytes, a part from its characters, a pair from
    its parts around the equals sign, and the pairs from the pieces between the
    ampersands.  The last two layers rest on what a part is written with:
    characters that stand for themselves, plus signs and percent signs, none of
    which separates anything. -/

namespace QueryComposer.Form

open Text

/-! ## Section 1: Bytes and characters -/

theorem hexValue?_hexDigit : ∀ n, n < 16 → hexValue? (hexDigit n) = some n := by decide

theorem isPlain_hexDigit : ∀ n, n < 16 → isPlain (hexDigit n) = true := by decide

/-- A byte is read back from its two digits. -/
theorem partBytes_percentByte (b : UInt8) (cs : List Char) :
    partBytes (percentByte b ++ cs) = b :: partBytes cs := by
  have hlt : b.toNat < 256 := b.toNat_lt
  have hhigh := hexValue?_hexDigit (b.toNat / 16) (by omega)
  have hlow := hexValue?_hexDigit (b.toNat % 16) (by omega)
  have hvalue : b.toNat / 16 * 16 + b.toNat % 16 = b.toNat := by omega
  simp only [percentByte, List.cons_append, List.nil_append, partBytes, hhigh, hlow, hvalue,
    UInt8.ofNat_toNat]

theorem partBytes_flatMap_percentByte (bytes : List UInt8) (cs : List Char) :
    partBytes (bytes.flatMap percentByte ++ cs) = bytes ++ partBytes cs := by
  induction bytes with
  | nil => rfl
  | cons b bytes ih =>
    rw [List.flatMap_cons, List.append_assoc, partBytes_percentByte, ih, List.cons_append]

/-- A character that stands for itself is neither a plus nor a percent sign. -/
theorem partBytes_plain {c : Char} (h : isPlain c = true) (cs : List Char) :
    partBytes (c :: cs) = String.utf8EncodeChar c ++ partBytes cs := by
  have hplus : c ≠ '+' := by
    intro hc
    rw [hc] at h
    exact absurd h (by decide)
  have hpercent : c ≠ '%' := by
    intro hc
    rw [hc] at h
    exact absurd h (by decide)
  rw [partBytes]
  · exact hplus
  · intro a b cs' hc
    exact absurd hc hpercent

theorem partBytes_encodeChar (c : Char) (cs : List Char) :
    partBytes (encodeChar c ++ cs) = String.utf8EncodeChar c ++ partBytes cs := by
  unfold encodeChar
  split
  next hc =>
    subst hc
    rfl
  split
  next _ hplain => exact partBytes_plain hplain cs
  next => exact partBytes_flatMap_percentByte _ cs

theorem partBytes_flatMap_encodeChar (cs : List Char) :
    partBytes (cs.flatMap encodeChar) = cs.flatMap String.utf8EncodeChar := by
  induction cs with
  | nil => rfl
  | cons c cs ih => rw [List.flatMap_cons, partBytes_encodeChar, ih, List.flatMap_cons]

theorem decodePart_encodePart (s : String) : decodePart (encodePart s) = s := by
  unfold decodePart encodePart
  rw [partBytes_flatMap_encodeChar, decode_flatMap_utf8EncodeChar, String.ofList_toList]

/-! ## Section 2: Pairs -/

/-- What names and values are written with. -/
theorem isPlain_of_mem_encodePart {s : String} {x : Char} (h : x ∈ encodePart s) :
    isPlain x = true ∨ x = '+' ∨ x = '%' := by
  obtain ⟨c, -, hx⟩ := List.mem_flatMap.mp h
  unfold encodeChar at hx
  split at hx
  next => exact .inr (.inl (List.mem_singleton.mp hx))
  split at hx
  next _ hplain =>
    rw [List.mem_singleton.mp hx]
    exact .inl hplain
  next =>
    obtain ⟨b, -, hx⟩ := List.mem_flatMap.mp hx
    have hlt : b.toNat < 256 := b.toNat_lt
    simp only [percentByte, List.mem_cons, List.not_mem_nil, or_false] at hx
    rcases hx with rfl | rfl | rfl
    · exact .inr (.inr rfl)
    · exact .inl (isPlain_hexDigit _ (by omega))
    · exact .inl (isPlain_hexDigit _ (by omega))

theorem equals_not_mem_encodePart (s : String) : '=' ∉ encodePart s := by
  intro h
  rcases isPlain_of_mem_encodePart h with h | h | h <;> exact absurd h (by decide)

theorem ampersand_not_mem_encodePart (s : String) : '&' ∉ encodePart s := by
  intro h
  rcases isPlain_of_mem_encodePart h with h | h | h <;> exact absurd h (by decide)

theorem decodePiece_encodePair (pair : String × String) : decodePiece (encodePair pair) = pair := by
  unfold decodePiece encodePair
  rw [cutFirst_append (equals_not_mem_encodePart pair.1)]
  simp only [decodePart_encodePart]

theorem ampersand_not_mem_encodePair (pair : String × String) : '&' ∉ encodePair pair := by
  unfold encodePair
  intro h
  rcases List.mem_append.mp h with h | h
  · exact ampersand_not_mem_encodePart _ h
  · rcases List.mem_cons.mp h with h | h
    · exact absurd h (by decide)
    · exact ampersand_not_mem_encodePart _ h

/-- **Pairs of any texts survive.**  Reading what was written gives the pairs back. -/
theorem decode_encode (pairs : List (String × String)) : decode (encode pairs) = pairs := by
  have hpieces : pieces '&' (encode pairs).toList = pairs.map encodePair := by
    unfold encode
    rw [String.toList_ofList]
    apply pieces_intercalate
    · intro piece hpiece
      obtain ⟨pair, -, rfl⟩ := List.mem_map.mp hpiece
      exact ampersand_not_mem_encodePair pair
    · intro piece hpiece
      obtain ⟨pair, -, rfl⟩ := List.mem_map.mp hpiece
      simp [encodePair]
  calc decode (encode pairs)
      = (pieces '&' (encode pairs).toList).map decodePiece := rfl
    _ = (pairs.map encodePair).map decodePiece := by rw [hpieces]
    _ = pairs := by
        rw [List.map_map]
        exact List.map_id'' decodePiece_encodePair pairs

/-! ## Section 3: Text put together -/

/-- Text of characters that stand for themselves is written as it is. -/
theorem encodePart_of_plain {s : String} (h : ∀ c ∈ s.toList, isPlain c = true) :
    encodePart s = s.toList := by
  have hchar : ∀ c ∈ s.toList, encodeChar c = [c] := by
    intro c hc
    have hplain := h c hc
    have hspace : c ≠ ' ' := by
      intro heq
      rw [heq] at hplain
      exact absurd hplain (by decide)
    rw [encodeChar, if_neg hspace, if_pos hplain]
  unfold encodePart
  calc s.toList.flatMap encodeChar
      = s.toList.flatMap fun c => [c] := List.flatMap_congr hchar
    _ = s.toList := List.flatMap_singleton' _

/-- Two texts around an ampersand are read one after the other, whatever they are. -/
theorem decode_append (before after : String) :
    decode (before ++ "&" ++ after) = decode before ++ decode after := by
  have hpieces : (before ++ "&" ++ after).toList.splitOn '&' =
      before.toList.splitOn '&' ++ after.toList.splitOn '&' := by
    have htext : (before ++ "&" ++ after).toList = before.toList ++ '&' :: after.toList := by
      simp
    rw [htext]
    exact List.splitOnP_append_cons _ _ (beq_self_eq_true '&')
  unfold decode
  rw [hpieces, List.filter_append, List.map_append]

/-- One more pair at the end of a text is read behind all others. -/
theorem decode_append_pair (text : String) (pair : String × String) :
    decode (append text pair) = decode text ++ [pair] := by
  have hwritten : String.ofList (encodePair pair) = encode [pair] := by
    simp [encode]
  unfold append
  simp only [hwritten]
  split
  next hempty =>
    rw [String.isEmpty_iff.mp hempty, decode_encode]
    rfl
  next => rw [decode_append, decode_encode]

theorem intercalate_concat {sep p : List Char} {ps : List (List Char)} (h : ps ≠ []) :
    sep.intercalate (ps ++ [p]) = sep.intercalate ps ++ (sep ++ p) := by
  induction ps with
  | nil => exact absurd rfl h
  | cons q ps ih =>
    cases ps with
    | nil => simp
    | cons q' ps =>
      have hrest := ih (List.cons_ne_nil q' ps)
      rw [List.cons_append] at hrest
      simp [hrest]

theorem encode_ne_empty {pairs : List (String × String)} (h : pairs ≠ []) : encode pairs ≠ "" := by
  intro hempty
  have hread := decode_encode pairs
  rw [hempty] at hread
  exact h hread.symm

/-- Pairs that are added one by one are written like pairs that come together. -/
theorem append_encode (pairs : List (String × String)) (pair : String × String) :
    append (encode pairs) pair = encode (pairs ++ [pair]) := by
  unfold append
  by_cases h : pairs = []
  · subst h
    simp [encode]
  · have hne : (encode pairs).isEmpty = false := by simpa using encode_ne_empty h
    have hparts : pairs.map encodePair ≠ [] := by simpa using h
    rw [hne, ← String.toList_inj]
    simp [encode, intercalate_concat hparts]

end QueryComposer.Form
