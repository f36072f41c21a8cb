import QueryComposer.Proofs.Sorting.MoveToFront
import QueryComposer.Query.Basic

/-! # What reading lets through

    Reading the texts of a query succeeds exactly when the model exists, every
    entry of the fields segment reads as a column that can be shown, and every
    pair of the filter segment reads as a filter with a lookup that is offered
    or as a row limit.  The lemmas say so for one entry and one pair, and then
    for whole texts. -/

namespace QueryComposer

open Outcome

/-! ## Section 1: Row limits -/

theorem Limit.one_le_clamp (n : Int) : 1 ≤ Limit.clamp n := by
  have hgreatest : 1 ≤ Limit.greatest := by decide
  unfold Limit.clamp
  omega

/-- A limit in range is moved at most from 0 to 1. -/
theorem Limit.clamp_natCast {n : Nat} (h : n ≤ greatest) : clamp n = max n 1 := by
  have hgreatest : 1 ≤ greatest := by decide
  unfold clamp
  omega

theorem Limit.one_le_of_parse {raw : String} {n : Nat} (h : Limit.parse raw = .ok n) : 1 ≤ n := by
  unfold Limit.parse at h
  split at h
  next m _ =>
    cases h
    exact one_le_clamp m
  next => cases h

/-! ## Section 2: Columns -/

namespace Columns

variable {s : Schema} {model segment : String} {cs : Columns}

theorem readEntry_eq_ok {entry : List Char} {c : Column} : readEntry s model entry = .ok c ↔
    Column.ofSegment? entry = some c ∧ ∃ f, s.column model c.path = .ok f := by
  unfold readEntry
  cases Column.ofSegment? entry with
  | none => simp
  | some d =>
    simp only [bind_eq_ok, pure_eq_ok, Except.ok.injEq, Option.some.injEq]
    constructor
    · intro hex
      obtain ⟨f, hf, rfl⟩ := hex
      exact ⟨rfl, f, hf⟩
    · intro hex
      obtain ⟨rfl, f, hf⟩ := hex
      exact ⟨f, hf, rfl⟩

/-- Columns are read entry by entry and numbered anew. -/
theorem ofSegment_eq_ok : ofSegment s model segment = .ok cs ↔
    ∃ read, List.Forall₂ (fun entry c => readEntry s model entry = .ok c) (entries segment) read ∧
      cs = renumber read := by
  unfold ofSegment
  rw [bind_eq_ok]
  simp only [mapM_eq_ok, pure_eq_ok, Except.ok.injEq, eq_comm (a := cs)]

theorem paths_eq_map_shown : cs.paths = cs.shown.map (·.1) := by
  simp [paths, shown, Function.comp_def]

/-- Each column that was read stems from an entry, apart from its priority. -/
theorem mem_shown_ofSegment (h : ofSegment s model segment = .ok cs) {x : String × Option Direction}
    (hx : x ∈ cs.shown) : ∃ entry ∈ entries segment, ∃ c, Column.ofSegment? entry = some c ∧
      (∃ f, s.column model c.path = .ok f) ∧ (c.path, c.sort) = x := by
  obtain ⟨read, hread, rfl⟩ := ofSegment_eq_ok.mp h
  rw [shown_renumber, shown] at hx
  obtain ⟨c, hc, rfl⟩ := List.mem_map.mp hx
  obtain ⟨i, hi⟩ := List.mem_iff_getElem?.mp hc
  obtain ⟨hlt, rfl⟩ := List.getElem?_eq_some_iff.mp hi
  have hlt' : i < (entries segment).length := hread.length_eq ▸ hlt
  obtain ⟨hentry, hcolumn⟩ := readEntry_eq_ok.mp (hread.get hlt' hlt)
  exact ⟨_, List.get_mem _ _, _, hentry, hcolumn, rfl⟩

end Columns

/-! ## Section 3: Filters -/

theorem FieldType.defaultLookup?_eq_some {t : FieldType} {name : String} {l : Lookup} :
    t.defaultLookup? = some (name, l) ↔ t.defaultLookup = some name ∧ t.lookup? name = some l := by
  constructor
  · intro h
    obtain ⟨name', hname, h⟩ := Option.bind_eq_some_iff.mp h
    obtain ⟨l', hl, heq⟩ := Option.bind_eq_some_iff.mp h
    cases heq
    exact ⟨hname, hl⟩
  · intro ⟨hname, hl⟩
    exact Option.bind_eq_some_iff.mpr ⟨name, hname, Option.bind_eq_some_iff.mpr ⟨l, hl, rfl⟩⟩

namespace Schema

variable {s : Schema} {model path lookup : String} {t : FieldType} {e : QueryError}

theorem typeOf_eq_ok {f : Field} :
    s.typeOf path f = .ok t ↔ s.type? (f.typeName.getD "") = some t := by
  unfold typeOf
  dsimp only
  cases s.type? (f.typeName.getD "") <;> simp

/-- Filters compare fields that are stored and have a type that the schema describes. -/
theorem filterType_eq_ok : s.filterType model path = .ok t ↔
    ∃ f, s.field model path = .ok f ∧ f.isFilterable = true ∧ s.typeOf path f = .ok t := by
  unfold filterType
  rw [bind_eq_ok]
  refine exists_congr fun f => and_congr_right fun _ => ?_
  cases f.isFilterable <;> simp

theorem typeAt_of_filterType (h : s.filterType model path = .ok t) :
    s.typeAt model path = .ok t := by
  obtain ⟨f, hf, -, ht⟩ := filterType_eq_ok.mp h
  exact bind_eq_ok.mpr ⟨f, hf, ht⟩

theorem checkLookup_eq_ok : s.checkLookup model path lookup = .ok () ↔
    ∃ t, s.filterType model path = .ok t ∧ t.hasLookup lookup = true := by
  unfold checkLookup
  rw [bind_eq_ok]
  refine exists_congr fun t => and_congr_right fun _ => ?_
  cases t.hasLookup lookup <;> simp

/-- Once filters may compare the field, nothing but the name of the lookup can be wrong. -/
theorem checkLookup_eq_error (h : s.filterType model path = .ok t) :
    s.checkLookup model path lookup = .error e ↔
      ¬ t.hasLookup lookup = true ∧ e = .unknownLookup path lookup := by
  unfold checkLookup
  rw [h, ok_bind]
  cases t.hasLookup lookup <;> simp [eq_comm]

/-- A new filter starts with the default lookup of the field's type, where the type has it. -/
theorem newFilter_eq_ok {f : Filter} : s.newFilter model path = .ok f ↔
    ∃ t name l, s.filterType model path = .ok t ∧ t.defaultLookup = some name ∧
      t.lookup? name = some l ∧ f = { path, lookup := name, value := l.initial } := by
  unfold newFilter
  rw [bind_eq_ok]
  constructor
  · intro ⟨t, ht, h⟩
    split at h
    next name l hdefault =>
      cases h
      obtain ⟨hname, hl⟩ := FieldType.defaultLookup?_eq_some.mp hdefault
      exact ⟨t, name, l, ht, hname, hl, rfl⟩
    next => cases h
  · intro ⟨t, name, l, ht, hname, hl, hf⟩
    refine ⟨t, ht, ?_⟩
    rw [FieldType.defaultLookup?_eq_some.mpr ⟨hname, hl⟩, hf]
    rfl

end Schema

/-- The type of the field that the filter compares offers its lookup. -/
def Filter.Offered (s : Schema) (model : String) (f : Filter) : Prop :=
  s.checkLookup model f.path f.lookup = .ok ()

namespace Filters

variable {s : Schema} {model segment : String} {parsed parsed' : Parsed} {pair : String × String}

/-- A pair is a row limit or a filter, as its name says. -/
theorem readPair_eq_ok : readPair s model parsed pair = .ok parsed' ↔
    if pair.1 = limitKey then
      ∃ n, Limit.parse pair.2 = .ok n ∧ parsed' = { parsed with limit := some n }
    else ∃ path lookup, splitKey? pair.1 = some (path, lookup) ∧
      s.checkLookup model path lookup = .ok () ∧
      parsed' = { parsed with filters := parsed.filters ++ [{ path, lookup, value := pair.2 }] } := by
  unfold readPair
  split
  next => simp only [bind_eq_ok, pure_eq_ok, Except.ok.injEq, eq_comm (a := parsed')]
  next =>
    cases splitKey? pair.1 with
    | none => simp
    | some cut =>
      simp only [bind_eq_ok, pure_eq_ok, Except.ok.injEq, Option.some.injEq]
      constructor
      · intro hex
        obtain ⟨⟨⟩, hcheck, rfl⟩ := hex
        exact ⟨cut.1, cut.2, rfl, hcheck, rfl⟩
      · intro hex
        obtain ⟨path, lookup, rfl, hcheck, rfl⟩ := hex
        exact ⟨(), hcheck, rfl⟩

/-- What can be said of everything read: each filter was cut from a name and is offered,
    nothing is noted against its value, and the row limit is at least 1. -/
structure Parsed.Sound (s : Schema) (model : String) (parsed : Parsed) : Prop where
  cut : ∀ f ∈ parsed.filters, ∃ key, splitKey? key = some (f.path, f.lookup)
  offered : ∀ f ∈ parsed.filters, f.Offered s model
  unmarked : ∀ f ∈ parsed.filters, f.message = none
  one_le_limit : ∀ n, parsed.limit = some n → 1 ≤ n

theorem Parsed.Sound.readPair (hsound : parsed.Sound s model)
    (h : readPair s model parsed pair = .ok parsed') : parsed'.Sound s model := by
  rw [readPair_eq_ok] at h
  split at h
  next =>
    obtain ⟨n, hn, rfl⟩ := h
    refine { hsound with one_le_limit := ?_ }
    rintro m ⟨⟩
    exact Limit.one_le_of_parse hn
  next =>
    obtain ⟨path, lookup, hcut, hcheck, rfl⟩ := h
    have hlast : ∀ {P : Filter → Prop}, (∀ f ∈ parsed.filters, P f) →
        P { path, lookup, value := pair.2 } →
        ∀ f ∈ parsed.filters ++ [{ path, lookup, value := pair.2 }], P f := by
      intro P hold hnew f hf
      rcases List.mem_append.mp hf with hf | hf
      · exact hold f hf
      · rwa [List.mem_singleton.mp hf]
    exact {
      cut := hlast hsound.cut ⟨pair.1, hcut⟩
      offered := hlast hsound.offered hcheck
      unmarked := hlast hsound.unmarked rfl
      one_le_limit := hsound.one_le_limit }

theorem sound_of_ofSegment (h : ofSegment s model segment = .ok parsed) : parsed.Sound s model := by
  refine foldlM_preserves (P := Parsed.Sound s model) (fun _ _ _ h hsound => hsound.readPair h) h ?_
  exact ⟨nofun, nofun, nofun, nofun⟩

/-- The filters that a model is opened with are read like any others. -/
theorem sound_of_defaults {fs : Filters} (h : defaults s model = .ok fs) :
    ∃ parsed : Parsed, parsed.Sound s model ∧ fs = parsed.filters := by
  obtain ⟨m, -, h⟩ := bind_eq_ok.mp h
  obtain ⟨parsed, hparsed, heq⟩ := bind_eq_ok.mp h
  cases heq
  exact ⟨parsed, sound_of_ofSegment hparsed, rfl⟩

end Filters

/-! ## Section 4: Queries -/

namespace Query

variable {s : Schema} {p : Parts} {limit : Nat} {q : Query}

/-- A query is read from its texts one after the other. -/
theorem ofParts_eq_ok : ofParts s p limit = .ok q ↔ (∃ m, s.model p.model = .ok m) ∧
    ∃ cs parsed, Columns.ofSegment s p.model p.fields = .ok cs ∧
      Filters.ofSegment s p.model p.query = .ok parsed ∧
      q = { empty p.model (parsed.limit.getD limit) with
            columns := cs, filters := parsed.filters } := by
  unfold ofParts
  simp only [bind_eq_ok, pure_eq_ok, Except.ok.injEq, eq_comm (a := q)]
  constructor
  · intro hex
    obtain ⟨m, hm, cs, hcs, parsed, hparsed, rfl⟩ := hex
    exact ⟨⟨m, hm⟩, cs, parsed, hcs, hparsed, rfl⟩
  · intro hex
    obtain ⟨⟨m, hm⟩, cs, parsed, hcs, hparsed, rfl⟩ := hex
    exact ⟨m, hm, cs, hcs, parsed, hparsed, rfl⟩

end Query

end QueryComposer
