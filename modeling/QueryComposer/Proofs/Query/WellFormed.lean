import QueryComposer.Proofs.Query.Reading
import QueryComposer.Proofs.Query.Step
import QueryComposer.Query.Draft

/-! # Well-formed queries

    A query fits a schema when six rules hold of it.  Nobody states them when a
    query is made: they hold of the query that a model starts with, and of each
    query read from texts or described by steps, and every command keeps each
    of them by itself.

    The rules are kept one by one.  For each rule there is one lemma on
    `Composer.Step`, which looks at the commands that touch what the rule is
    about and passes over the others.  Runs and drafts follow by induction. -/

namespace QueryComposer

open Outcome

/-! ## Section 1: The rules -/

namespace Query

/-- What is expected of a query. -/
inductive Rule where
  /-- The schema has the model. -/
  | modelKnown
  /-- Every row has one cell for each column. -/
  | rowsAligned
  /-- Exactly the sorted columns have a priority, and the priorities of `k` sorted columns
      are the numbers below `k`. -/
  | prioritiesDense
  /-- Every path leads to a field that can be shown. -/
  | pathsSelectable
  /-- Every filter has a lookup that its field offers. -/
  | lookupsOffered
  /-- At least one row is fetched. -/
  | limitPositive
deriving DecidableEq, Repr

/-- The rule holds of a query under a schema. -/
def Rule.Holds (r : Rule) (s : Schema) (q : Query) : Prop :=
  match r with
  | modelKnown => ∃ m, s.model q.model = .ok m
  | rowsAligned => ∀ row ∈ q.rows, row.length = q.columns.length
  | prioritiesDense => q.columns.Dense
  | pathsSelectable => ∀ path ∈ q.columns.paths, ∃ f, s.column q.model path = .ok f
  | lookupsOffered => ∀ f ∈ q.filters, f.Offered s q.model
  | limitPositive => 1 ≤ q.limit

/-- All rules hold. -/
def WellFormed (s : Schema) (q : Query) : Prop := ∀ r : Rule, r.Holds s q

end Query

/-! ## Section 2: The checks that the library offers -/

theorem Columns.checkRows_eq_ok {cs : Columns} {rows : List Row} :
    cs.checkRows rows = .ok () ↔ ∀ row ∈ rows, row.length = cs.length := by
  unfold checkRows
  split
  next i hi =>
    obtain ⟨hlt, hbad, -⟩ := List.findIdx?_eq_some_iff_getElem.mp hi
    have hlen : rows[i].length ≠ cs.length := by simpa using hbad
    refine ⟨nofun, fun h => absurd (h _ (List.getElem_mem hlt)) hlen⟩
  next hnone => simpa using hnone

namespace Query

variable {s : Schema} {q : Query}

/-- Validation decides the rules that the schema has no part in, the row limit apart. -/
theorem validate_eq_ok : q.validate = .ok () ↔
    (∀ row ∈ q.rows, row.length = q.columns.length) ∧ q.columns.Dense := by
  unfold validate
  rw [bind_eq_ok]
  have hdense : (if q.columns.isDense then return () else
      throw (.malformedFields q.columns.segment) : Except QueryError Unit) = .ok () ↔
      q.columns.Dense := by
    rw [← Columns.isDense_iff]
    split <;> simp [*]
  constructor
  · intro ⟨_, hrows, h⟩
    exact ⟨Columns.checkRows_eq_ok.mp hrows, hdense.mp h⟩
  · intro ⟨hrows, h⟩
    exact ⟨(), Columns.checkRows_eq_ok.mpr hrows, hdense.mpr h⟩

/-- What can be checked of a query: it names a model, its paths and lookups are found in
    the schema, it validates, and it fetches at least one row. -/
structure Checked (s : Schema) (q : Query) : Prop where
  model : ∃ m, s.model q.model = .ok m
  paths : ∀ path ∈ q.columns.paths, ∃ f, s.column q.model path = .ok f
  lookups : ∀ f ∈ q.filters, f.Offered s q.model
  valid : q.validate = .ok ()
  one_le_limit : 1 ≤ q.limit

/-- The checks find out whether a query is well-formed. -/
theorem checked_iff_wellFormed : q.Checked s ↔ q.WellFormed s := by
  constructor
  · intro h r
    obtain ⟨hrows, hdense⟩ := validate_eq_ok.mp h.valid
    match r with
    | .modelKnown => exact h.model
    | .rowsAligned => exact hrows
    | .prioritiesDense => exact hdense
    | .pathsSelectable => exact h.paths
    | .lookupsOffered => exact h.lookups
    | .limitPositive => exact h.one_le_limit
  · intro h
    exact {
      model := h .modelKnown
      paths := h .pathsSelectable
      lookups := h .lookupsOffered
      valid := validate_eq_ok.mpr ⟨h .rowsAligned, h .prioritiesDense⟩
      one_le_limit := h .limitPositive }

end Query

/-! ## Section 3: What edits keep -/

namespace Columns

variable {cs cs' : Columns} {i : Nat} {c : Column} {t : Option Direction}

theorem dense_nil : Dense [] := ⟨nofun, .nil⟩

theorem Dense.toggleSort (h : cs.Dense) (ht : cs.toggleSort i = .ok cs') : cs'.Dense := by
  obtain ⟨c, hi, -⟩ := toggleSort_eq_ok.mp ht
  exact (h.ranked.toggleSort hi ht).dense

theorem Dense.sortTo (h : cs.Dense) (ht : cs.sortTo i t = .ok cs') : cs'.Dense := by
  obtain ⟨c, hi, -⟩ := sortTo_eq_ok.mp ht
  have hranked := h.ranked.sortTo hi ht
  split at hranked
  next => rwa [hranked]
  next => exact hranked.dense

theorem length_shown : cs.shown.length = cs.length := List.length_map _

/-- A column that changes its sort alone keeps its path. -/
theorem paths_of_shown_set (hi : cs[i]? = some c) (h : cs'.shown = cs.shown.set i (c.path, t)) :
    cs'.paths = cs.paths := by
  have hpath : (cs.shown.map (·.1))[i]? = some c.path := by simp [shown, hi]
  rw [paths_eq_map_shown, paths_eq_map_shown, h, List.map_set]
  refine List.ext_getElem? fun j => ?_
  rw [List.getElem?_set]
  split
  next hj =>
    subst hj
    rw [if_pos (List.getElem?_eq_some_iff.mp hpath).1, hpath]
  next => rfl

theorem paths_toggleSort (h : cs.toggleSort i = .ok cs') : cs'.paths = cs.paths := by
  obtain ⟨c, hi, -⟩ := toggleSort_eq_ok.mp h
  exact paths_of_shown_set hi (shown_toggleSort h hi)

theorem paths_sortTo (h : cs.sortTo i t = .ok cs') : cs'.paths = cs.paths := by
  obtain ⟨c, hi, -⟩ := sortTo_eq_ok.mp h
  exact paths_of_shown_set hi (shown_sortTo h hi)

theorem length_eq_of_paths_eq (h : cs'.paths = cs.paths) : cs'.length = cs.length := by
  simpa [paths] using congrArg List.length h

theorem length_remove (h : cs.remove i = .ok cs') : i < cs.length ∧ cs'.length = cs.length - 1 := by
  obtain ⟨c, hi, -⟩ := remove_eq_ok.mp h
  have hlt : i < cs.length := (List.getElem?_eq_some_iff.mp hi).1
  refine ⟨hlt, ?_⟩
  rw [length_of_shown_eq (shown_remove h), List.length_eraseIdx_of_lt (length_shown ▸ hlt),
    length_shown]

theorem paths_remove (h : cs.remove i = .ok cs') : cs'.paths = cs.paths.eraseIdx i := by
  rw [paths_eq_map_shown, shown_remove h, paths_eq_map_shown, List.eraseIdx_map]

theorem mem_paths_of_remove (h : cs.remove i = .ok cs') {path : String} (hpath : path ∈ cs'.paths) :
    path ∈ cs.paths := by
  rw [paths_remove h] at hpath
  exact List.mem_of_mem_eraseIdx hpath

theorem paths_add (path : String) : (cs.add path).paths = cs.paths ++ [path] := by
  simp [paths, add]

theorem mem_paths_add {path path' : String} (h : path' ∈ (cs.add path).paths) :
    path' ∈ cs.paths ∨ path' = path := by
  simpa [paths_add] using h

end Columns

/-- A filter starts with a lookup that its type offers. -/
theorem Schema.offered_of_newFilter {s : Schema} {model path : String} {f : Filter}
    (h : s.newFilter model path = .ok f) : f.Offered s model := by
  obtain ⟨t, name, l, ht, -, hl, rfl⟩ := newFilter_eq_ok.mp h
  have hlookup : t.hasLookup name = true := Option.isSome_iff_exists.mpr ⟨l, hl⟩
  exact checkLookup_eq_ok.mpr ⟨t, ht, hlookup⟩

/-! ## Section 4: What a step keeps -/

namespace Composer.Step

open Query (Rule)

variable {c : Composer} {q q' : Query} {command : Command}

theorem modelKnown (h : c.Step q command q') (hq : Rule.modelKnown.Holds c.schema q) :
    Rule.modelKnown.Holds c.schema q' := by
  cases h with
  | setModel hm => exact ⟨_, hm⟩
  | _ => exact hq

/-- Columns and rows grow and shrink together. -/
theorem rowsAligned (h : c.Step q command q') (hq : Rule.rowsAligned.Holds c.schema q) :
    Rule.rowsAligned.Holds c.schema q' := by
  -- a column that is added takes a cell in every row with it
  have hextend : ∀ path, ∀ row ∈ q.rows.map Row.extend,
      row.length = (q.columns.add path).length := by
    intro path row hrow
    obtain ⟨old, hold, rfl⟩ := List.mem_map.mp hrow
    have hlen := hq old hold
    simp [Row.extend, Columns.add, hlen]
  cases h with
  | setModel _ =>
    intro row hrow
    exact absurd hrow List.not_mem_nil
  | addField _ => exact hextend _
  | addFieldWithDefaultSort _ _ hcs =>
    intro row hrow
    rw [Columns.length_eq_of_paths_eq (Columns.paths_sortTo hcs)]
    exact hextend _ row hrow
  | removeField hcs =>
    intro row hrow
    obtain ⟨old, hold, rfl⟩ := List.mem_map.mp hrow
    obtain ⟨hlt, hlen⟩ := Columns.length_remove hcs
    -- the position is one of the columns, so every row has a cell to lose
    have hold := hq old hold
    rw [Row.removeCell, List.length_eraseIdx_of_lt (hold ▸ hlt), hlen, hold]
  | toggleSort hcs =>
    intro row hrow
    rw [Columns.length_eq_of_paths_eq (Columns.paths_toggleSort hcs)]
    exact hq row hrow
  | setData hrows => exact Columns.checkRows_eq_ok.mp hrows
  | _ => exact hq

theorem prioritiesDense (h : c.Step q command q') (hq : Rule.prioritiesDense.Holds c.schema q) :
    Rule.prioritiesDense.Holds c.schema q' := by
  have hadd : ∀ path, (q.columns.add path).Dense := fun path => (hq.ranked.add path).dense
  cases h with
  | setModel _ => exact Columns.dense_nil
  | addField _ => exact hadd _
  | addFieldWithDefaultSort _ _ hcs => exact (hadd _).sortTo hcs
  | removeField hcs => exact (hq.ranked.remove hcs).dense
  | toggleSort hcs => exact hq.toggleSort hcs
  | _ => exact hq

theorem pathsSelectable (h : c.Step q command q') (hq : Rule.pathsSelectable.Holds c.schema q) :
    Rule.pathsSelectable.Holds c.schema q' := by
  have hadd : ∀ path, (∃ f, c.schema.column q.model path = .ok f) →
      ∀ path' ∈ (q.columns.add path).paths, ∃ f, c.schema.column q.model path' = .ok f := by
    intro path hpath path' hmem
    rcases Columns.mem_paths_add hmem with hold | rfl
    · exact hq path' hold
    · exact hpath
  cases h with
  | setModel _ => exact nofun
  | addField hf => exact hadd _ ⟨_, hf⟩
  | addFieldWithDefaultSort hf _ hcs =>
    intro path hpath
    rw [Columns.paths_sortTo hcs] at hpath
    exact hadd _ ⟨_, hf⟩ path hpath
  | removeField hcs =>
    intro path hpath
    exact hq path (Columns.mem_paths_of_remove hcs hpath)
  | toggleSort hcs =>
    intro path hpath
    rw [Columns.paths_toggleSort hcs] at hpath
    exact hq path hpath
  | _ => exact hq

theorem lookupsOffered (h : c.Step q command q') (hq : Rule.lookupsOffered.Holds c.schema q) :
    Rule.lookupsOffered.Holds c.schema q' := by
  cases h with
  | setModel _ => exact nofun
  | addFilter hf =>
    intro g hg
    rcases List.mem_append.mp hg with hg | hg
    · exact hq g hg
    · rw [List.mem_singleton.mp hg]
      exact Schema.offered_of_newFilter hf
  | removeFilter _ => exact fun g hg => hq g (List.mem_of_mem_eraseIdx hg)
  | setFilterValue hf =>
    intro g hg
    rcases List.mem_or_eq_of_mem_set hg with hg | rfl
    · exact hq g hg
    · have hold := hq _ (List.mem_of_getElem? hf)
      exact hold
  | setFilterLookup _ hcheck =>
    intro g hg
    rcases List.mem_or_eq_of_mem_set hg with hg | rfl
    · exact hq g hg
    · exact hcheck
  | applyDefaultFilters hfs =>
    intro g hg
    rcases List.mem_append.mp hg with hg | hg
    · exact hq g hg
    · obtain ⟨parsed, hsound, rfl⟩ := Filters.sound_of_defaults hfs
      exact hsound.offered g hg
  | setFilterErrors =>
    -- a message is noted with the filter, which is otherwise the same
    intro g hg
    obtain ⟨i, hlt, rfl⟩ := List.mem_mapIdx.mp hg
    have hold := hq _ (List.getElem_mem hlt)
    exact hold
  | _ => exact hq

theorem limitPositive (h : c.Step q command q') (hc : 1 ≤ c.defaultLimit)
    (hq : Rule.limitPositive.Holds c.schema q) : Rule.limitPositive.Holds c.schema q' := by
  cases h with
  | setModel _ => exact hc
  | setLimit hn => exact Limit.one_le_of_parse hn
  | _ => exact hq

/-- A step keeps each rule by itself. -/
theorem keeps (h : c.Step q command q') (hc : 1 ≤ c.defaultLimit) (r : Rule)
    (hq : r.Holds c.schema q) : r.Holds c.schema q' :=
  match r with
  | .modelKnown => h.modelKnown hq
  | .rowsAligned => h.rowsAligned hq
  | .prioritiesDense => h.prioritiesDense hq
  | .pathsSelectable => h.pathsSelectable hq
  | .lookupsOffered => h.lookupsOffered hq
  | .limitPositive => h.limitPositive hc hq

end Composer.Step

/-! ## Section 5: Where queries come from -/

namespace Query

variable {s : Schema} {q : Query}

/-- A query without columns, filters and rows breaks no rule but perhaps the first. -/
theorem wellFormed_empty {model : String} {m : Model} (hm : s.model model = .ok m) (limit : Nat) :
    (empty model limit).WellFormed s
  | .modelKnown => ⟨m, hm⟩
  | .rowsAligned => nofun
  | .prioritiesDense => Columns.dense_nil
  | .pathsSelectable => nofun
  | .lookupsOffered => nofun
  | .limitPositive => Nat.le_max_right limit 1

theorem wellFormed_of_initial {c : Composer} {model : String} (h : c.initial model = .ok q) :
    q.WellFormed c.schema := by
  obtain ⟨m, hm, heq⟩ := bind_eq_ok.mp h
  cases heq
  exact wellFormed_empty hm _

/-- Reading checks paths and lookups, and restores the priorities. -/
theorem wellFormed_of_ofParts {p : Parts} {limit : Nat} (h : ofParts s p limit = .ok q) :
    q.WellFormed s := by
  obtain ⟨⟨m, hm⟩, cs, parsed, hcs, hparsed, rfl⟩ := ofParts_eq_ok.mp h
  have hsound := Filters.sound_of_ofSegment hparsed
  intro r
  match r with
  | .modelKnown => exact ⟨m, hm⟩
  | .rowsAligned => exact nofun
  | .prioritiesDense =>
    obtain ⟨read, -, rfl⟩ := Columns.ofSegment_eq_ok.mp hcs
    exact Columns.renumber_ranked.dense
  | .pathsSelectable =>
    intro path hpath
    rw [Columns.paths_eq_map_shown] at hpath
    obtain ⟨x, hx, rfl⟩ := List.mem_map.mp hpath
    obtain ⟨-, -, c, -, hcolumn, rfl⟩ := Columns.mem_shown_ofSegment hcs hx
    exact hcolumn
  | .lookupsOffered => exact hsound.offered
  | .limitPositive => exact Nat.le_max_right _ 1

/-- Sorting a column touches two rules and breaks neither. -/
theorem WellFormed.sortTo (h : q.WellFormed s) {i : Nat} {t : Option Direction} {cs : Columns}
    (hcs : q.columns.sortTo i t = .ok cs) : { q with columns := cs }.WellFormed s
  | .modelKnown => h .modelKnown
  | .rowsAligned => fun row hrow =>
    (h .rowsAligned row hrow).trans (Columns.length_eq_of_paths_eq (Columns.paths_sortTo hcs)).symm
  | .prioritiesDense => Columns.Dense.sortTo (h .prioritiesDense) hcs
  | .pathsSelectable => fun path hpath => h .pathsSelectable path (Columns.paths_sortTo hcs ▸ hpath)
  | .lookupsOffered => h .lookupsOffered
  | .limitPositive => h .limitPositive

end Query

namespace Draft

variable {s : Schema} {d : Draft}

/-- The draft is of a query under the schema that is well-formed so far, or has failed. -/
structure Sound (s : Schema) (d : Draft) : Prop where
  schema_eq : d.composer.schema = s
  one_le_limit : 1 ≤ d.composer.defaultLimit
  wellFormed : ∀ q, d.outcome = .ok q → q.WellFormed s

theorem sound_on (s : Schema) (model : String) : (on s model).Sound s where
  schema_eq := rfl
  one_le_limit := by
    show 1 ≤ Limit.standard
    decide
  wellFormed _ h := Query.wellFormed_of_initial h

theorem Sound.command (h : d.Sound s) (c : Command) : (d.command c).Sound s where
  schema_eq := h.schema_eq
  one_le_limit := h.one_le_limit
  wellFormed q hq := by
    obtain ⟨q₀, hq₀, happly⟩ := bind_eq_ok.mp hq
    have hstep := Composer.apply_eq_ok_iff_step.mp happly
    intro r
    have hold := h.wellFormed q₀ hq₀ r
    rw [← h.schema_eq] at hold ⊢
    exact hstep.keeps h.one_le_limit r hold

theorem Sound.sortBy (h : d.Sound s) (path : String) (direction : Direction) :
    (d.sortBy path direction).Sound s where
  schema_eq := h.schema_eq
  one_le_limit := h.one_le_limit
  wellFormed q hq := by
    obtain ⟨q₀, hq₀, hsort⟩ := bind_eq_ok.mp hq
    obtain ⟨cs, hcs, heq⟩ := bind_eq_ok.mp hsort
    cases heq
    exact ((h.command (.addField path)).wellFormed q₀ hq₀).sortTo hcs

theorem Sound.filter (h : d.Sound s) (path lookup value : String) :
    (d.filter path lookup value).Sound s := by
  have hadded := h.command (.addFilter path)
  simp only [Draft.filter]
  split
  next => exact hadded
  next => exact (hadded.command _).command _

theorem Sound.fields (h : d.Sound s) (paths : List String) :
    (paths.foldl Draft.field d).Sound s := by
  induction paths generalizing d with
  | nil => exact h
  | cons path paths ih => exact ih (h.command (.addField path))

theorem Sound.step (h : d.Sound s) (step : DraftStep) : (d.step step).Sound s :=
  match step with
  | .field path => h.command (.addField path)
  | .fields paths => h.fields paths
  | .defaultSortedField path => h.command (.addFieldWithDefaultSort path)
  | .sortBy path direction => h.sortBy path direction
  | .filter path lookup value => h.filter path lookup value
  | .defaultFilters => h.command .applyDefaultFilters
  | .limit raw => h.command (.setLimit raw)
  | .command c => h.command c

theorem Sound.steps (h : d.Sound s) (steps : List DraftStep) : (steps.foldl Draft.step d).Sound s := by
  induction steps generalizing d with
  | nil => exact h
  | cons step steps ih => exact ih (h.step step)

end Draft

/-! ## Section 6: Every query handed out -/

/-- A composer for a schema with any row limit to begin with. -/
def Composer.forSchema (s : Schema) (limit : Nat) : Composer :=
  Composer.withDefaultLimit { schema := s } limit

theorem Composer.one_le_forSchema (s : Schema) (limit : Nat) : 1 ≤ (forSchema s limit).defaultLimit :=
  Nat.le_max_right limit 1

/-- **Every query handed out is well-formed.**  All rules hold of initial queries, of
    queries read from any texts and of queries described by any steps.  Each rule, taken
    on its own, is kept by every command and hence by every run. -/
theorem wellFormed_throughout (s : Schema) (limit : Nat) :
    (∀ model q, (Composer.forSchema s limit).initial model = .ok q → q.WellFormed s) ∧
    (∀ p given q, Query.ofParts s p given = .ok q → q.WellFormed s) ∧
    (∀ model steps q, Draft.build s model steps = .ok q → q.WellFormed s) ∧
    (∀ (r : Query.Rule) q command q', (Composer.forSchema s limit).apply q command = .ok q' →
      r.Holds s q → r.Holds s q') ∧
    ∀ (r : Query.Rule) q commands q', (Composer.forSchema s limit).run q commands = .ok q' →
      r.Holds s q → r.Holds s q' := by
  have hone := Composer.one_le_forSchema s limit
  have hstep : ∀ (r : Query.Rule) q command q', (Composer.forSchema s limit).Step q command q' →
      r.Holds s q → r.Holds s q' := fun r _ _ _ h => h.keeps hone r
  refine ⟨?_, ?_, ?_, ?_, ?_⟩
  · intro model q h
    exact Query.wellFormed_of_initial h
  · intro p given q h
    exact Query.wellFormed_of_ofParts h
  · intro model steps q h
    exact ((Draft.sound_on s model).steps steps).wellFormed q h
  · intro r q command q' h
    exact hstep r q command q' (Composer.apply_eq_ok_iff_step.mp h)
  · intro r q commands q' h
    exact Composer.run_preserves (hstep r) h

/-- A schema of one model: people, who have a name and an age. -/
def Schema.staff : Schema :=
  { models := [("person",
      { fields := [("age", .stored "Age" "number"), ("name", .stored "Name" "text")]
        defaultFilters := "age__gte=18" })]
    types := [
      ("number",
        { lookups := [("gte", { kind := .number, initial := "0" })]
          defaultLookup := some "gte"
          defaultSort := some .descending }),
      ("text",
        { lookups := [("contains", { kind := .text })]
          defaultLookup := some "contains" })] }

/-- The grown-ups called Ann, the oldest first. -/
def Query.grownUps : Query :=
  { model := "person"
    columns := [.sorted "name" .descending 1, .sorted "age" .descending 0]
    filters := [{ path := "name", lookup := "contains", value := "Ann" },
      { path := "age", lookup := "gte", value := "18" }]
    limit := Limit.standard }

theorem wellFormed_throughout_of_grownUps :
    Draft.build .staff "person" [.sortBy "name" .descending, .defaultSortedField "age",
        .filter "name" "contains" "Ann", .defaultFilters] = .ok .grownUps ∧
      Query.grownUps.WellFormed .staff :=
  have hbuild : Draft.build .staff "person" [.sortBy "name" .descending,
      .defaultSortedField "age", .filter "name" "contains" "Ann", .defaultFilters] =
      .ok .grownUps := by rfl
  ⟨hbuild, (wellFormed_throughout .staff Limit.standard).2.2.1 _ _ _ hbuild⟩

end QueryComposer
