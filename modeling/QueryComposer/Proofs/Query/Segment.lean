import QueryComposer.Proofs.Form
import QueryComposer.Proofs.Query.Reading
import QueryComposer.Proofs.Schema.Path

/-! # What segments can carry

    The fields segment escapes nothing, and the name of a filter is cut at its
    last separator, so not every column and filter survives being written.
    `Column.Portable` and `Filter.Portable` say which ones do:

    * what is portable is read back from the text that was written for it;
    * whatever is read from a text is portable, however the text came about.

    For columns both follow from the grammar of an entry, `Column.WrittenAs`,
    which the reader follows exactly (`ofSegment?_eq_some_iff`).  The two facts are proved for an entry and a name first, then for segments. -/

namespace QueryComposer

open Outcome

/-! ## Section 1: Filters that links can carry -/

/-- Path and lookup are there, and the last separator of the name is the one between them. -/
structure Filter.Portable (f : Filter) : Prop where
  path_ne : f.path ≠ ""
  lookup_ne : f.lookup ≠ ""
  head_ne : f.lookup.toList.head? ≠ some '_'
  no_separator : ¬ Path.HasSeparator f.lookup.toList

theorem Filter.portable_iff {f : Filter} : f.Portable ↔
    f.path ≠ "" ∧ f.lookup ≠ "" ∧ ¬ Path.HasSeparator ('_' :: f.lookup.toList) := by
  rw [Path.hasSeparator_cons]
  constructor
  · intro h
    refine ⟨h.path_ne, h.lookup_ne, ?_⟩
    rintro (⟨-, hhead⟩ | hsep)
    · exact h.head_ne hhead
    · exact h.no_separator hsep
  · intro ⟨hpath, hlookup, hno⟩
    exact ⟨hpath, hlookup, fun hhead => hno (.inl ⟨rfl, hhead⟩), fun hsep => hno (.inr hsep)⟩

instance (f : Filter) : Decidable f.Portable := decidable_of_iff' _ Filter.portable_iff

/-- The filter with nothing noted against its value. -/
def Filter.unmarked (f : Filter) : Filter := { f with message := none }

namespace Filters

variable {s : Schema} {model : String} {parsed : Parsed} {f : Filter} {key path lookup : String}

theorem splitKey?_eq_some : splitKey? key = some (path, lookup) ↔ path ≠ "" ∧ lookup ≠ "" ∧
    key.toList = path.toList ++ '_' :: '_' :: lookup.toList ∧
    ¬ Path.HasSeparator ('_' :: lookup.toList) := by
  unfold splitKey?
  constructor
  · intro h
    split at h
    next before after hcut =>
      split at h
      next => cases h
      next hne =>
        cases h
        rw [Bool.or_eq_true, not_or, List.isEmpty_iff, List.isEmpty_iff] at hne
        obtain ⟨hkey, hafter⟩ := Path.lastParts?_eq_some.mp hcut
        refine ⟨?_, ?_, ?_, ?_⟩
        · simpa using hne.1
        · simpa using hne.2
        · simpa using hkey
        · simpa using hafter
    next => cases h
  · intro ⟨hpath, hlookup, hkey, hafter⟩
    rw [hkey, Path.lastParts?_append hafter]
    simp [hpath, hlookup]

theorem toList_key : f.key.toList = f.path.toList ++ '_' :: '_' :: f.lookup.toList := by
  simp [Filter.key, String.toList_append, Path.toList_pathSeparator]

/-- The name of a portable filter is cut where it was put together. -/
theorem splitKey?_key (h : f.Portable) : splitKey? f.key = some (f.path, f.lookup) := by
  obtain ⟨hpath, hlookup, hno⟩ := Filter.portable_iff.mp h
  exact splitKey?_eq_some.mpr ⟨hpath, hlookup, toList_key, hno⟩

/-- Whatever was cut from a name is portable. -/
theorem portable_of_splitKey? (h : splitKey? key = some (f.path, f.lookup)) : f.Portable := by
  obtain ⟨hpath, hlookup, -, hno⟩ := splitKey?_eq_some.mp h
  exact Filter.portable_iff.mpr ⟨hpath, hlookup, hno⟩

/-- No filter is taken for a row limit, since its name has underscores. -/
theorem key_ne_limitKey : f.key ≠ limitKey := by
  intro h
  have hmem : '_' ∈ limitKey.toList := by
    rw [← h, toList_key]
    simp
  exact absurd hmem (by decide)

theorem readPair_of_portable (h : f.Portable) (hoffered : f.Offered s model) :
    readPair s model parsed (f.key, f.value) =
      .ok { parsed with filters := parsed.filters ++ [f.unmarked] } := by
  rw [readPair_eq_ok, if_neg key_ne_limitKey]
  exact ⟨f.path, f.lookup, splitKey?_key h, hoffered, rfl⟩

/-- Portable filters are read back from their segment. -/
theorem ofSegment_segment {fs : Filters} (h : ∀ f ∈ fs, f.Portable)
    (hoffered : ∀ f ∈ fs, f.Offered s model) :
    ofSegment s model fs.segment = .ok { filters := fs.map Filter.unmarked } := by
  -- over what has been read already, for the filters are appended to it one by one
  have hread : ∀ parsed : Parsed, fs.pairs.foldlM (readPair s model) parsed =
      .ok { parsed with filters := parsed.filters ++ fs.map Filter.unmarked } := by
    induction fs with
    | nil =>
      intro parsed
      simp [pairs]
    | cons f fs ih =>
      intro parsed
      rw [List.forall_mem_cons] at h hoffered
      have hrest := ih h.2 hoffered.2 { parsed with filters := parsed.filters ++ [f.unmarked] }
      rw [pairs, List.map_cons, List.foldlM_cons, readPair_of_portable h.1 hoffered.1, ok_bind]
      rw [pairs] at hrest
      rw [hrest]
      simp
  unfold ofSegment segment
  rw [Form.decode_encode]
  simpa using hread {}

/-- Filters that were read are portable. -/
theorem portable_of_ofSegment {segment : String} (h : ofSegment s model segment = .ok parsed) :
    ∀ f ∈ parsed.filters, f.Portable := by
  intro f hf
  obtain ⟨key, hkey⟩ := (sound_of_ofSegment h).cut f hf
  exact portable_of_splitKey? hkey

end Filters

/-! ## Section 2: Columns that links can carry -/

/-- The path is there, no comma ends its entry early, and no sign in it is taken for the
    sign of a direction. -/
structure Column.Portable (c : Column) : Prop where
  path_ne : c.path ≠ ""
  no_comma : ',' ∉ c.path.toList
  no_sign : c.sort = none → '+' ∉ c.path.toList ∧ '-' ∉ c.path.toList

instance (c : Column) : Decidable c.Portable :=
  decidable_of_iff (c.path ≠ "" ∧ ',' ∉ c.path.toList ∧
      (c.sort = none → '+' ∉ c.path.toList ∧ '-' ∉ c.path.toList))
    ⟨fun h => ⟨h.1, h.2.1, h.2.2⟩, fun h => ⟨h.path_ne, h.no_comma, h.no_sign⟩⟩

namespace Column

variable {c : Column} {entry : List Char}

theorem isSign_iff {x : Char} : isSign x = true ↔ x = '+' ∨ x = '-' := by
  unfold isSign Direction.ofSign?
  split
  next => simp
  next => simp
  next hplus hminus =>
    simp only [Option.isSome_none, Bool.false_eq_true, false_iff, not_or]
    exact ⟨hplus, hminus⟩

theorem ofSign?_sign (d : Direction) : Direction.ofSign? d.sign = some d := by
  cases d <;> rfl

theorem sign_of_ofSign? {x : Char} {d : Direction} (h : Direction.ofSign? x = some d) :
    x = d.sign := by
  have hsign : isSign x = true := by rw [isSign, h]; rfl
  rcases isSign_iff.mp hsign with rfl | rfl
  · cases h
    rfl
  · cases h
    rfl

theorem isSign_sign (d : Direction) : isSign d.sign = true := by
  cases d <;> rfl

theorem isSign_of_isDigit {x : Char} (h : x.isDigit = true) : isSign x = false := by
  rw [Bool.eq_false_iff, Ne, isSign_iff]
  rintro (rfl | rfl) <;> exact absurd h (by decide)

/-- What an entry says of a column, whose priority is the number as it is written.  There is no
    sign among digits, so the last sign of an entry is the one before the number. -/
inductive WrittenAs : List Char → Column → Prop where
  | plain {path : List Char} : '+' ∉ path → '-' ∉ path →
      WrittenAs path { path := String.ofList path }
  | signed {path digits : List Char} (d : Direction) : path ≠ [] → digits ≠ [] →
      (∀ c ∈ digits, c.isDigit = true) → Nat.ofDigitChars 10 digits 0 < Nat.pow 2 64 →
      WrittenAs (path ++ d.sign :: digits)
        (sorted (String.ofList path) d (Nat.ofDigitChars 10 digits 0))

/-- Exactly the sorted columns come with a number. -/
theorem WrittenAs.sort_isSome (h : WrittenAs entry c) : c.sort.isSome = c.priority.isSome := by
  cases h with
  | plain => rfl
  | signed => rfl

theorem forall_isSign_eq_false_iff {cs : List Char} :
    (∀ x ∈ cs, isSign x = false) ↔ '+' ∉ cs ∧ '-' ∉ cs := by
  constructor
  · intro h
    refine ⟨fun hmem => ?_, fun hmem => ?_⟩
    · exact absurd (h _ hmem) (by decide)
    · exact absurd (h _ hmem) (by decide)
  · intro h x hx
    rw [Bool.eq_false_iff, Ne, isSign_iff]
    intro hsign
    rcases hsign with rfl | rfl
    · exact h.1 hx
    · exact h.2 hx

/-- An entry is read as what it says. -/
theorem ofSegment?_eq_some_iff : ofSegment? entry = some c ↔ WrittenAs entry c := by
  constructor
  · intro h
    unfold ofSegment? at h
    split at h
    next hcut =>
      obtain ⟨hplus, hminus⟩ := forall_isSign_eq_false_iff.mp (Text.cutLast_eq_none.mp hcut)
      cases h
      exact .plain hplus hminus
    next path sign digits hcut =>
      -- behind the last sign stands the number, if the entry is read at all
      obtain ⟨rfl, -, -⟩ := Text.cutLast_eq_some.mp hcut
      obtain ⟨d, hd, h⟩ := Option.bind_eq_some_iff.mp h
      split at h
      next => cases h
      next hpath =>
        obtain ⟨p, hp, heq⟩ := Option.bind_eq_some_iff.mp h
        obtain ⟨hne, hdigits, rfl, hlt⟩ := Text.naturalBelow?_eq_some.mp hp
        cases heq
        rw [sign_of_ofSign? hd]
        exact .signed d (by simpa using hpath) hne hdigits hlt
  · intro h
    cases h with
    | plain hplus hminus =>
      have hcut := Text.cutLast_eq_none.mpr (forall_isSign_eq_false_iff.mpr ⟨hplus, hminus⟩)
      rw [ofSegment?, hcut]
    | @signed path digits d hpath hne hdigits hlt =>
      -- digits are no signs, so the cut is where the entry was put together
      have hcut : Text.cutLast isSign (path ++ d.sign :: digits) = some (path, d.sign, digits) :=
        Text.cutLast_append (isSign_sign d) fun x hx => isSign_of_isDigit (hdigits x hx)
      have hnumber := Text.naturalBelow?_eq_some.mpr ⟨hne, hdigits, rfl, hlt⟩
      rw [ofSegment?, hcut]
      simp [ofSign?_sign, hpath, hnumber]

/-- An entry is the path alone, or path, sign and priority. -/
theorem toList_segment (hmatch : c.sort.isSome = c.priority.isSome) :
    (c.sort = none ∧ c.priority = none ∧ c.segment = c.path) ∨
    ∃ d p, c.sort = some d ∧ c.priority = some p ∧
      c.segment.toList = c.path.toList ++ d.sign :: Text.decimal p := by
  unfold segment
  cases hs : c.sort with
  | none =>
    rw [hs, Option.isSome_none, eq_comm, Option.isSome_eq_false_iff] at hmatch
    exact .inl ⟨rfl, by simpa using hmatch, by simp⟩
  | some d =>
    rw [hs, Option.isSome_some, eq_comm, Option.isSome_iff_exists] at hmatch
    obtain ⟨p, hp⟩ := hmatch
    exact .inr ⟨d, p, rfl, hp, by simp [hp]⟩

/-- A portable column is read back from its entry, if its priority has 64 bits. -/
theorem ofSegment?_segment (h : c.Portable) (hmatch : c.sort.isSome = c.priority.isSome)
    (hfits : ∀ p, c.priority = some p → p < Nat.pow 2 64) :
    ofSegment? c.segment.toList = some c := by
  rw [ofSegment?_eq_some_iff]
  obtain ⟨path, sort, priority⟩ := c
  rcases toList_segment hmatch with ⟨hsort, hpriority, htext⟩ | ⟨d, p, hsort, hpriority, htext⟩
  · obtain ⟨hplus, hminus⟩ := h.no_sign hsort
    cases hsort
    cases hpriority
    have hplain := WrittenAs.plain hplus hminus
    rw [String.ofList_toList] at hplain
    rw [htext]
    exact hplain
  · cases hsort
    cases hpriority
    have hvalue : Nat.ofDigitChars 10 (Text.decimal p) 0 = p := Nat.ofDigitChars_ten_toDigits
    have hpath : path.toList ≠ [] := by simpa using h.path_ne
    have hlt : Nat.ofDigitChars 10 (Text.decimal p) 0 < Nat.pow 2 64 := by
      rw [hvalue]
      exact hfits p rfl
    have hsigned := WrittenAs.signed d hpath (Text.decimal_ne_nil p)
      (fun c hc => Text.isDigit_of_mem_decimal hc) hlt
    rw [String.ofList_toList, hvalue] at hsigned
    rw [htext]
    exact hsigned

/-- Whatever is read from an entry is portable. -/
theorem portable_of_ofSegment? (hne : entry ≠ []) (hcomma : ',' ∉ entry)
    (h : ofSegment? entry = some c) : c.Portable := by
  cases ofSegment?_eq_some_iff.mp h with
  | plain hplus hminus =>
    exact {
      path_ne := by simpa using hne
      no_comma := by simpa using hcomma
      no_sign := fun _ => by simpa using ⟨hplus, hminus⟩ }
  | signed d hpath =>
    -- the path may have signs of its own, since the last one ends it
    rw [List.mem_append, not_or] at hcomma
    exact {
      path_ne := by simpa [sorted] using hpath
      no_comma := by simpa [sorted] using hcomma.1
      no_sign := nofun }

/-- An entry stays in one piece and is not passed over. -/
theorem segment_isPiece (h : c.Portable) (hmatch : c.sort.isSome = c.priority.isSome) :
    ',' ∉ c.segment.toList ∧ c.segment.toList ≠ [] := by
  have hne : c.path.toList ≠ [] := by simpa using h.path_ne
  rcases toList_segment hmatch with ⟨-, -, htext⟩ | ⟨d, p, -, -, htext⟩
  · rw [htext]
    exact ⟨h.no_comma, hne⟩
  · rw [htext]
    refine ⟨?_, by simp⟩
    rw [List.mem_append, List.mem_cons]
    rintro (hpath | hsign | hdigits)
    · exact h.no_comma hpath
    · cases d <;> exact absurd hsign (by decide)
    · exact absurd (Text.isDigit_of_mem_decimal hdigits) (by decide)

end Column

namespace Columns

variable {s : Schema} {model : String} {cs : Columns} {c : Column}

theorem entries_segment (h : ∀ c ∈ cs, c.Portable) (hmatch : cs.PrioritiesMatch) :
    entries cs.segment = cs.map fun c => c.segment.toList := by
  have htext : cs.segment.toList = [','].intercalate (cs.map fun c => c.segment.toList) := by
    unfold segment
    rw [String.toList_intercalate, List.map_map]
    rfl
  have hpieces : Text.pieces ',' cs.segment.toList = cs.map fun c => c.segment.toList := by
    rw [htext]
    apply Text.pieces_intercalate
    · intro piece hpiece
      obtain ⟨c, hc, rfl⟩ := List.mem_map.mp hpiece
      exact (Column.segment_isPiece (h c hc) (hmatch c hc)).1
    · intro piece hpiece
      obtain ⟨c, hc, rfl⟩ := List.mem_map.mp hpiece
      exact (Column.segment_isPiece (h c hc) (hmatch c hc)).2
  exact hpieces

/-- Dense priorities are smaller than the number of columns. -/
theorem Dense.priority_lt (h : cs.Dense) (hc : c ∈ cs) {p : Nat} (hp : c.priority = some p) :
    p < cs.length := by
  have hmem : p ∈ cs.priorities := List.mem_filterMap.mpr ⟨c, hc, hp⟩
  have hlt : p < cs.sortedCount := List.mem_range.mp (h.perm.mem_iff.mp hmem)
  exact Nat.lt_of_lt_of_le hlt List.countP_le_length

/-- Portable columns of dense priorities are read back from their segment. -/
theorem ofSegment_segment (h : ∀ c ∈ cs, c.Portable) (hdense : cs.Dense)
    (hfits : cs.length < Nat.pow 2 64)
    (hpaths : ∀ path ∈ cs.paths, ∃ f, s.column model path = .ok f) :
    ofSegment s model cs.segment = .ok cs := by
  rw [ofSegment_eq_ok]
  refine ⟨cs, ?_, hdense.ranked.renumber_eq.symm⟩
  rw [entries_segment h hdense.sorted_iff, List.forall₂_map_left_iff, List.forall₂_same]
  intro c hc
  rw [readEntry_eq_ok]
  refine ⟨Column.ofSegment?_segment (h c hc) (hdense.sorted_iff c hc) ?_, ?_⟩
  · intro p hp
    exact Nat.lt_trans (hdense.priority_lt hc hp) hfits
  · exact hpaths c.path (List.mem_map_of_mem hc)

/-- Columns that were read are portable. -/
theorem portable_of_ofSegment {segment : String} (h : ofSegment s model segment = .ok cs) :
    ∀ c ∈ cs, c.Portable := by
  intro c hc
  have hmem : (c.path, c.sort) ∈ cs.shown := List.mem_map_of_mem hc
  obtain ⟨entry, hentry, d, hd, -, heq⟩ := mem_shown_ofSegment h hmem
  obtain ⟨hpath, hsort⟩ := Prod.mk.inj heq
  obtain ⟨hne, hcomma⟩ := Text.mem_pieces hentry
  have hportable := Column.portable_of_ofSegment? hne hcomma hd
  exact {
    path_ne := hpath ▸ hportable.path_ne
    no_comma := hpath ▸ hportable.no_comma
    no_sign := hpath ▸ hsort ▸ hportable.no_sign }

/-- There are no more columns than characters. -/
theorem length_le_of_ofSegment {segment : String} (h : ofSegment s model segment = .ok cs) :
    cs.length ≤ segment.length := by
  obtain ⟨read, hread, rfl⟩ := ofSegment_eq_ok.mp h
  have hle : (entries segment).length ≤ segment.toList.length := Text.length_pieces_le _ _
  calc (renumber read).length
      = read.length := List.length_mapIdx
    _ = (entries segment).length := hread.length_eq.symm
    _ ≤ segment.toList.length := hle
    _ = segment.length := String.length_toList

end Columns

end QueryComposer
