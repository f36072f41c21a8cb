import QueryComposer.Proofs.Query.Segment
import QueryComposer.Proofs.Query.WellFormed

/-! # Links lead back to their queries

    The texts of a query are read as the query itself, without its rows and
    without what was noted against its filters, exactly when its columns and
    filters are portable.  In particular every query that was read from texts
    is a fixed point: its own texts, whatever the first ones looked like, are
    read as the same query.

    The numbers in the fields segment have 64 bits, so both results are about
    queries of fewer than `2 ^ 64` columns and texts of fewer characters; there
    is no room for longer ones in memory. -/

namespace QueryComposer

open Outcome

namespace Query

variable {s : Schema} {q : Query} {p : Parts} {limit : Nat}

/-! ## Section 1: There and back -/

/-- What a link keeps of a query: all but the rows and the messages on its filters. -/
def bare (q : Query) : Query := { q with filters := q.filters.map Filter.unmarked, rows := [] }

/-- A well-formed query of portable columns and filters is read back. -/
theorem ofParts_parts (h : q.WellFormed s) (hfits : q.columns.length < Nat.pow 2 64)
    (hcolumns : ∀ c ∈ q.columns, c.Portable) (hfilters : ∀ f ∈ q.filters, f.Portable) :
    ofParts s q.parts q.limit = .ok q.bare := by
  have hcs := Columns.ofSegment_segment hcolumns (h .prioritiesDense) hfits (h .pathsSelectable)
  have hfs := Filters.ofSegment_segment hfilters (h .lookupsOffered)
  have hlimit : max q.limit 1 = q.limit := Nat.max_eq_left (h .limitPositive)
  rw [ofParts_eq_ok]
  refine ⟨h .modelKnown, q.columns, _, hcs, hfs, ?_⟩
  simp [bare, empty, parts, hlimit]

/-- Whatever the texts, a query read from them can be carried by texts. -/
theorem portable_of_ofParts (h : ofParts s p limit = .ok q) :
    (∀ c ∈ q.columns, c.Portable) ∧ ∀ f ∈ q.filters, f.Portable := by
  obtain ⟨-, cs, parsed, hcs, hparsed, rfl⟩ := ofParts_eq_ok.mp h
  exact ⟨Columns.portable_of_ofSegment hcs, Filters.portable_of_ofSegment hparsed⟩

/-- Nothing but columns, filters and the row limit is read from texts. -/
theorem bare_of_ofParts (h : ofParts s p limit = .ok q) : q.bare = q := by
  obtain ⟨-, cs, parsed, -, hparsed, rfl⟩ := ofParts_eq_ok.mp h
  have hunmarked := (Filters.sound_of_ofSegment hparsed).unmarked
  have hfilters : parsed.filters.map Filter.unmarked = parsed.filters := by
    have hsame : ∀ f ∈ parsed.filters, f.unmarked = f := by
      intro f hf
      rw [Filter.unmarked, ← hunmarked f hf]
    calc parsed.filters.map Filter.unmarked
        = parsed.filters.map id := List.map_congr_left hsame
      _ = parsed.filters := List.map_id _
  simp [bare, empty, hfilters]

/-- **What a link can carry.**  The texts of a checked query are read as the query without
    its rows and messages if and only if every column and every filter is portable. -/
theorem ofParts_parts_iff_portable (h : q.Checked s) (hfits : q.columns.length < Nat.pow 2 64) :
    ofParts s q.parts q.limit = .ok q.bare ↔
      (∀ c ∈ q.columns, c.Portable) ∧ ∀ f ∈ q.filters, f.Portable := by
  constructor
  · intro hread
    obtain ⟨hcolumns, hfilters⟩ := portable_of_ofParts hread
    refine ⟨hcolumns, fun f hf => ?_⟩
    have hunmarked := hfilters f.unmarked (List.mem_map_of_mem hf)
    exact ⟨hunmarked.path_ne, hunmarked.lookup_ne, hunmarked.head_ne, hunmarked.no_separator⟩
  · intro ⟨hcolumns, hfilters⟩
    exact ofParts_parts (checked_iff_wellFormed.mp h) hfits hcolumns hfilters

/-- A schema whose field names have signs and underscores in them. -/
def oddNames : Schema :=
  { models := [("m", { fields := [("a+b-c", .stored "Letters" "number"),
      ("n_", .stored "Number" "number")] })]
    types := [("number", { lookups := [("gte", { kind := .number })] })] }

/-- A query with signs in a path, a filter that was found to be wrong, and a row. -/
def oddQuery (sort : Option Direction) : Query :=
  { model := "m"
    columns := [{ path := "a+b-c", sort, priority := sort.map fun _ => 0 }, { path := "n_" }]
    filters := [{ path := "n_", lookup := "gte", value := "Ä&=+%", message := some "no number" }]
    rows := [[emptyCell, emptyCell]]
    limit := 7 }

theorem checked_oddQuery (sort : Option Direction) : (oddQuery sort).Checked oddNames where
  model := ⟨_, rfl⟩
  paths := by
    intro path hpath
    have hcases : path = "a+b-c" ∨ path = "n_" := by
      simpa [oddQuery, Columns.paths] using hpath
    rcases hcases with rfl | rfl
    · exact ⟨_, rfl⟩
    · exact ⟨_, rfl⟩
  lookups := by
    intro f hf
    rw [List.mem_singleton.mp hf]
    rfl
  valid := by
    cases sort with
    | none => cbv
    | some d => cbv
  one_le_limit := by
    show 1 ≤ 7
    decide

/-- Behind the sign of a direction the signs of a path do no harm; without it they do. -/
theorem ofParts_parts_oddQuery :
    (∀ sort, (oddQuery sort).Checked oddNames ∧ (oddQuery sort).columns.length < Nat.pow 2 64) ∧
      ofParts oddNames (oddQuery (some .descending)).parts 7 =
        .ok (oddQuery (some .descending)).bare ∧
      ofParts oddNames (oddQuery none).parts 7 ≠ .ok (oddQuery none).bare := by
  have hfits : ∀ sort, (oddQuery sort).columns.length < Nat.pow 2 64 := by
    intro sort
    show 2 < Nat.pow 2 64
    decide
  refine ⟨fun sort => ⟨checked_oddQuery sort, hfits sort⟩, ?_, ?_⟩
  · exact (ofParts_parts_iff_portable (checked_oddQuery _) (hfits _)).mpr
      ⟨by decide, by decide⟩
  · intro h
    have hportable := (ofParts_parts_iff_portable (checked_oddQuery none) (hfits _)).mp h
    exact absurd hportable.1 (by decide)

/-! ## Section 2: Normal forms -/

/-- **Reading lands on a fixed point.**  A query read from any texts is read again, and
    unchanged, from the texts that are written for it. -/
theorem ofParts_parts_of_ofParts (h : ofParts s p limit = .ok q)
    (hfits : p.fields.length < Nat.pow 2 64) : ofParts s q.parts q.limit = .ok q := by
  have hlength : q.columns.length ≤ p.fields.length := by
    obtain ⟨-, cs, parsed, hcs, -, rfl⟩ := ofParts_eq_ok.mp h
    exact Columns.length_le_of_ofSegment hcs
  obtain ⟨hcolumns, hfilters⟩ := portable_of_ofParts h
  have hread := ofParts_parts (wellFormed_of_ofParts h) (Nat.lt_of_le_of_lt hlength hfits)
    hcolumns hfilters
  rwa [bare_of_ofParts h] at hread

/-- The same columns and filter as somebody might have typed them: with empty entries, gaps in
    the priorities, more than one row limit and bytes that are not UTF-8. -/
def typedParts : Parts :=
  { model := "m"
    fields := ",n_,,a+b-c-7,n_+9"
    query := "limit=0&n_%5F_gte=%C3%28+&&limit=5" }

/-- What they are read as. -/
def typedQuery : Query :=
  { model := "m"
    columns := [{ path := "n_" }, .sorted "a+b-c" .descending 0, .sorted "n_" .ascending 1]
    filters := [{ path := "n_", lookup := "gte", value := "\uFFFD( " }]
    limit := 5 }

theorem ofParts_typedParts : ofParts oddNames typedParts 0 = .ok typedQuery := by
  have hcolumns : Columns.ofSegment oddNames "m" typedParts.fields = .ok typedQuery.columns := by
    rw [Columns.ofSegment_eq_ok]
    refine ⟨[{ path := "n_" }, .sorted "a+b-c" .descending 7, .sorted "n_" .ascending 9],
      mapM_eq_ok.mp (by decide +kernel), ?_⟩
    simp [typedQuery, Columns.renumber, Columns.ranking, Column.sorted, Column.isSorted,
      List.zipIdx, List.mergeSort, List.MergeSort.Internal.splitInTwo, List.idxOf,
      List.findIdx_cons]
  have hfilters : Filters.ofSegment oddNames "m" typedParts.query =
      .ok { filters := typedQuery.filters, limit := some 5 } := by decide +kernel
  exact ofParts_eq_ok.mpr ⟨⟨_, rfl⟩, _, _, hcolumns, hfilters, rfl⟩

theorem ofParts_parts_typedQuery :
    ofParts oddNames typedParts 0 = .ok typedQuery ∧ typedParts.fields.length < Nat.pow 2 64 ∧
      ofParts oddNames typedQuery.parts 5 = .ok typedQuery :=
  have hfits : typedParts.fields.length < Nat.pow 2 64 := by decide
  ⟨ofParts_typedParts, hfits, ofParts_parts_of_ofParts ofParts_typedParts hfits⟩

end Query

end QueryComposer
