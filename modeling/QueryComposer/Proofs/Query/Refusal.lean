import QueryComposer.Proofs.Query.RoundTrip

/-! # Why an edit is refused

    A command may name models, paths, lookups and positions that do not exist,
    and can fail for each of them.  Where it edits what a query has already,
    and the query is well-formed, all but one of these reasons are out of the
    question: the paths and lookups of the query were checked before.

    * `Columns.get_eq_error` and `Filters.get_eq_error` say when there is no
      entry at a position; every edit by position fails as they do.
    * `Composer.SucceedsIff` says that a command fails in one way only.
    * `Composer.own_edits_fail_one_way`: so it is with the edits of a query's
      own entries. -/

namespace QueryComposer

open Outcome

/-! ## Section 1: Positions -/

namespace Columns

variable {cs : Columns} {i : Nat} {e : QueryError}

theorem get_eq_error : cs.get i = .error e ↔
    ¬ i < cs.length ∧ e = .indexOutOfRange .fields i cs.length := by
  unfold get
  split
  next c hi =>
    have hlt := (List.getElem?_eq_some_iff.mp hi).1
    simp [hlt]
  next hnone =>
    have hle := List.getElem?_eq_none_iff.mp hnone
    simp [hle, eq_comm]

theorem remove_eq_error : cs.remove i = .error e ↔ cs.get i = .error e := map_eq_error

/-- Whatever the sort of the column is, it can be taken one step further. -/
theorem toggleSort_eq_error : cs.toggleSort i = .error e ↔ cs.get i = .error e := by
  unfold toggleSort
  cases cs.get i with
  | error e' => simp
  | ok c =>
    rw [ok_bind]
    cases Direction.next c.sort <;> simp

end Columns

namespace Filters

variable {fs : Filters} {i : Nat} {e : QueryError}

theorem get_eq_error : fs.get i = .error e ↔
    ¬ i < fs.length ∧ e = .indexOutOfRange .filters i fs.length := by
  unfold get
  split
  next f hi =>
    have hlt := (List.getElem?_eq_some_iff.mp hi).1
    simp [hlt]
  next hnone =>
    have hle := List.getElem?_eq_none_iff.mp hnone
    simp [hle, eq_comm]

theorem remove_eq_error : fs.remove i = .error e ↔ fs.get i = .error e := map_eq_error

theorem setValue_eq_error {value : String} :
    fs.setValue i value = .error e ↔ fs.get i = .error e := map_eq_error

theorem setLookup_eq_error {lookup : String} :
    fs.setLookup i lookup = .error e ↔ fs.get i = .error e := map_eq_error

/-- The filters that are there already do not get in the way of a new one. -/
theorem add_eq_error {s : Schema} {model path : String} :
    fs.add s model path = .error e ↔ s.newFilter model path = .error e := map_eq_error

end Filters

/-! ## Section 2: One command -/

namespace Composer

variable {c : Composer} {q : Query} {command : Command} {fits : Prop} {e : QueryError}

theorem apply_eq_error : c.apply q command = .error e ↔ c.patch q command = .error e := map_eq_error

/-- The command succeeds under one condition, and fails with one error otherwise. -/
structure SucceedsIff (c : Composer) (q : Query) (command : Command) (fits : Prop)
    (e : QueryError) : Prop where
  ok_iff : (∃ q', c.apply q command = .ok q') ↔ fits
  error : ¬ fits → c.apply q command = .error e

theorem succeedsIff_of_error
    (h : ∀ e', c.patch q command = .error e' ↔ ¬ fits ∧ e' = e) :
    c.SucceedsIff q command fits e := by
  have herror : ¬ fits → c.apply q command = .error e := fun hnot =>
    apply_eq_error.mpr ((h e).mpr ⟨hnot, rfl⟩)
  refine ⟨⟨fun hex => ?_, fun hfits => ?_⟩, herror⟩
  · obtain ⟨q', hok⟩ := hex
    by_cases hfits : fits
    · exact hfits
    · rw [herror hfits] at hok
      cases hok
  · -- a command that does not fail is done
    cases happly : c.apply q command with
    | ok q' => exact ⟨q', rfl⟩
    | error e' => exact absurd hfits ((h e').mp (apply_eq_error.mp happly)).1

theorem succeedsIff_removeField (c : Composer) (q : Query) (i : Nat) :
    c.SucceedsIff q (.removeField i) (i < q.columns.length)
      (.indexOutOfRange .fields i q.columns.length) :=
  succeedsIff_of_error fun _ =>
    map_eq_error.trans (Columns.remove_eq_error.trans Columns.get_eq_error)

theorem succeedsIff_toggleSort (c : Composer) (q : Query) (i : Nat) :
    c.SucceedsIff q (.toggleSort i) (i < q.columns.length)
      (.indexOutOfRange .fields i q.columns.length) :=
  succeedsIff_of_error fun _ =>
    map_eq_error.trans (Columns.toggleSort_eq_error.trans Columns.get_eq_error)

theorem succeedsIff_removeFilter (c : Composer) (q : Query) (i : Nat) :
    c.SucceedsIff q (.removeFilter i) (i < q.filters.length)
      (.indexOutOfRange .filters i q.filters.length) :=
  succeedsIff_of_error fun _ =>
    map_eq_error.trans (Filters.remove_eq_error.trans Filters.get_eq_error)

theorem succeedsIff_setFilterValue (c : Composer) (q : Query) (i : Nat) (value : String) :
    c.SucceedsIff q (.setFilterValue i value) (i < q.filters.length)
      (.indexOutOfRange .filters i q.filters.length) :=
  succeedsIff_of_error fun _ =>
    map_eq_error.trans (Filters.setValue_eq_error.trans Filters.get_eq_error)

/-- Beyond the filters the position is what is wrong, whatever the lookup is. -/
theorem apply_setFilterLookup_beyond {i : Nat} (hi : q.filters.length ≤ i) (lookup : String) :
    c.apply q (.setFilterLookup i lookup) =
      .error (.indexOutOfRange .filters i q.filters.length) := by
  have hget : q.filters.get i = .error (.indexOutOfRange .filters i q.filters.length) :=
    Filters.get_eq_error.mpr ⟨Nat.not_lt.mpr hi, rfl⟩
  exact apply_eq_error.mpr (bind_eq_error.mpr (.inl (Filters.setLookup_eq_error.mpr hget)))

/-- The filter is found again behind the edit, so the lookup is all that is left to check. -/
theorem patch_setFilterLookup {i : Nat} {f : Filter} (hf : q.filters[i]? = some f)
    (lookup : String) : c.patch q (.setFilterLookup i lookup) = do
      c.schema.checkLookup q.model f.path lookup
      return { filters := some (q.filters.set i { f with lookup }) } := by
  have hlt := (List.getElem?_eq_some_iff.mp hf).1
  have hset : q.filters.setLookup i lookup = .ok (q.filters.set i { f with lookup }) :=
    Filters.setLookup_eq_ok.mpr ⟨f, hf, rfl⟩
  have hget : Filters.get (q.filters.set i { f with lookup }) i = .ok { f with lookup } :=
    Filters.get_eq_ok.mpr (List.getElem?_set_self hlt)
  rw [patch, hset, ok_bind, hget, ok_bind]

theorem succeedsIff_setFilterLookup {i : Nat} {f : Filter} {t : FieldType}
    (hf : q.filters[i]? = some f) (ht : c.schema.filterType q.model f.path = .ok t)
    (lookup : String) : c.SucceedsIff q (.setFilterLookup i lookup)
      (t.hasLookup lookup = true) (.unknownLookup f.path lookup) := by
  refine succeedsIff_of_error fun e' => ?_
  rw [patch_setFilterLookup hf]
  exact map_eq_error.trans (Schema.checkLookup_eq_error ht)

/-! ## Section 3: Edits of a query's own entries -/

/-- **Edits of a query's own entries fail in one way only.**  On a checked query an edit by
    position fails only beyond the end of the list, and another lookup only where the type of
    the filter's field does not offer it.  Columns for paths that are shown already, the rows
    that the query has and messages of any kind are always accepted. -/
theorem own_edits_fail_one_way (c : Composer) (q : Query) (hq : q.Checked c.schema) :
    (∀ i, c.SucceedsIff q (.removeField i) (i < q.columns.length)
      (.indexOutOfRange .fields i q.columns.length)) ∧
    (∀ i, c.SucceedsIff q (.toggleSort i) (i < q.columns.length)
      (.indexOutOfRange .fields i q.columns.length)) ∧
    (∀ i, c.SucceedsIff q (.removeFilter i) (i < q.filters.length)
      (.indexOutOfRange .filters i q.filters.length)) ∧
    (∀ i value, c.SucceedsIff q (.setFilterValue i value) (i < q.filters.length)
      (.indexOutOfRange .filters i q.filters.length)) ∧
    (∀ i lookup, q.filters.length ≤ i → c.apply q (.setFilterLookup i lookup) =
      .error (.indexOutOfRange .filters i q.filters.length)) ∧
    (∀ i f, q.filters[i]? = some f → ∃ t, c.schema.typeAt q.model f.path = .ok t ∧
      ∀ lookup, c.SucceedsIff q (.setFilterLookup i lookup) (t.hasLookup lookup = true)
        (.unknownLookup f.path lookup)) ∧
    (∀ path ∈ q.columns.paths, ∃ q', c.apply q (.addField path) = .ok q') ∧
    (∃ q', c.apply q (.setData q.rows) = .ok q') ∧
    ∀ messages, ∃ q', c.apply q (.setFilterErrors messages) = .ok q' := by
  refine ⟨c.succeedsIff_removeField q, c.succeedsIff_toggleSort q, c.succeedsIff_removeFilter q,
    c.succeedsIff_setFilterValue q, fun i lookup hi => apply_setFilterLookup_beyond hi lookup,
    ?_, ?_, ?_, ?_⟩
  · -- the lookup that the filter has was accepted, so its field has a type
    intro i f hf
    have hoffered : f.Offered c.schema q.model := hq.lookups f (List.mem_of_getElem? hf)
    obtain ⟨t, ht, -⟩ := Schema.checkLookup_eq_ok.mp hoffered
    exact ⟨t, Schema.typeAt_of_filterType ht, succeedsIff_setFilterLookup hf ht⟩
  · -- a path that is shown was found once, and the schema is still the same
    intro path hpath
    obtain ⟨f, hf⟩ := hq.paths path hpath
    exact ⟨_, apply_eq_ok_iff_step.mpr (.addField hf)⟩
  · have hrows := (Query.validate_eq_ok.mp hq.valid).1
    exact ⟨_, apply_eq_ok_iff_step.mpr (.setData (Columns.checkRows_eq_ok.mpr hrows))⟩
  · intro messages
    exact ⟨_, apply_eq_ok_iff_step.mpr .setFilterErrors⟩

/-- There is no third column, and numbers can be compared by one lookup only. -/
theorem own_edits_fail_one_way_of_oddQuery :
    let c : Composer := { schema := Query.oddNames }
    let q := Query.oddQuery (some .descending)
    q.Checked c.schema ∧
      c.apply q (.removeField 2) = .error (.indexOutOfRange .fields 2 2) ∧
      (∃ q', c.apply q (.setFilterLookup 0 "gte") = .ok q') ∧
      c.apply q (.setFilterLookup 0 "lte") = .error (.unknownLookup "n_" "lte") ∧
      ∃ q', c.apply q (.addField "n_") = .ok q' := by
  intro c q
  have hchecked : q.Checked c.schema := Query.checked_oddQuery _
  obtain ⟨hremove, -, -, -, -, hlookup, hadd, -, -⟩ := own_edits_fail_one_way c q hchecked
  obtain ⟨t, ht, hsucceeds⟩ := hlookup 0 _ rfl
  have htype : t = { lookups := [("gte", { kind := .number })] } := (Except.ok.inj ht).symm
  subst htype
  refine ⟨hchecked, (hremove 2).error (by decide), ?_, ?_, hadd "n_" (by decide)⟩
  · exact (hsucceeds "gte").ok_iff.mpr (by decide)
  · exact (hsucceeds "lte").error (by decide)

end Composer

end QueryComposer
