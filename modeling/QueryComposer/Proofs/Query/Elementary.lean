import QueryComposer.Proofs.Query.Step
import QueryComposer.Proofs.Sorting.Recency
import QueryComposer.Query.Draft

/-! # Everything is done by elementary commands

    Some operations do several things at once: a column may come with a sort, a
    filter with its lookup and its value, and a step of a draft with all of
    these.  None of them can do more than the commands that users give one by
    one.  Each is the run of a list of such commands, and fails where that run
    fails, with the same error.

    * `Direction.clicksTo` counts the clicks that a sort takes.
    * `DraftStep.commands` spells a step out, on the query that it is taken on.
    * A step is the run of its commands (`outcome_step`), and a draft is the run
      of its steps (`outcome_steps`). -/

namespace QueryComposer

open Outcome

/-! ## Section 1: Clicks for a sort -/

/-- How many clicks lead from no sort to a sort. -/
def Direction.clicksTo : Option Direction → Nat
  | none => 0
  | some .ascending => 1
  | some .descending => 2

namespace Columns

variable {cs : Columns} {i : Nat} {c : Column}

/-- A column without sort is taken to a sort by clicks and nothing else. -/
theorem sortTo_of_unsorted (hi : cs[i]? = some c) (hsort : c.sort = none) (t : Option Direction) :
    cs.sortTo i t = cs.toggleSorts (List.replicate (Direction.clicksTo t) i) := by
  obtain ⟨cs', hto⟩ := exists_sortTo hi t
  have hcases := cases_of_sortTo hto hi
  rw [hsort] at hcases
  rw [hto]
  match t with
  | none =>
    have hsame : cs' = cs := by simpa using hcases
    rw [hsame]
    rfl
  | some .ascending =>
    have hone : cs.toggleSort i = .ok cs' := by simpa [Direction.next] using hcases
    simp [toggleSorts, Direction.clicksTo, hone]
  | some .descending =>
    have htwo : ∃ cs₁, cs.toggleSort i = .ok cs₁ ∧ cs₁.toggleSort i = .ok cs' := by
      simpa [Direction.next] using hcases
    obtain ⟨cs₁, h₁, h₂⟩ := htwo
    simp [toggleSorts, Direction.clicksTo, List.replicate, h₁, h₂]

/-- A column is added without sort, behind all others. -/
theorem sortTo_add (path : String) (t : Option Direction) :
    (cs.add path).sortTo cs.length t =
      (cs.add path).toggleSorts (List.replicate (Direction.clicksTo t) cs.length) := by
  have hlast : (cs.add path)[cs.length]? = some { path := path } := by simp [add]
  exact sortTo_of_unsorted hlast rfl t

end Columns

/-! ## Section 2: Single commands -/

namespace Composer

variable (c : Composer) (q : Query)

@[simp] theorem run_nil : c.run q [] = .ok q := rfl

theorem run_cons_eq (command : Command) (commands : List Command) :
    c.run q (command :: commands) = c.apply q command >>= fun q' => c.run q' commands := rfl

theorem apply_addField (path : String) : c.apply q (.addField path) =
    c.schema.column q.model path >>= fun _ =>
      .ok { q with columns := q.columns.add path, rows := q.rows.map Row.extend } := by
  show ((c.schema.column q.model path >>= _) >>= fun p => Except.ok (q.merge p)) = _
  rw [bind_assoc]
  rfl

theorem apply_toggleSort (i : Nat) : c.apply q (.toggleSort i) =
    q.columns.toggleSort i >>= fun cs => .ok { q with columns := cs } := by
  show ((q.columns.toggleSort i >>= _) >>= fun p => Except.ok (q.merge p)) = _
  rw [bind_assoc]
  rfl

theorem apply_addFieldWithDefaultSort (path : String) :
    c.apply q (.addFieldWithDefaultSort path) =
      c.schema.column q.model path >>= fun f => c.schema.typeOf path f >>= fun t =>
        (q.columns.add path).sortTo q.columns.length t.defaultSort >>= fun cs =>
          .ok { q with columns := cs, rows := q.rows.map Row.extend } := by
  show ((c.schema.column q.model path >>= fun f => c.schema.typeOf path f >>= fun t =>
      (q.columns.add path).sortTo q.columns.length t.defaultSort >>= _) >>= fun p =>
        Except.ok (q.merge p)) = _
  simp only [bind_assoc]
  rfl

/-- Clicks change nothing but the columns, one click after the other. -/
theorem run_toggleSorts (clicks : List Nat) : c.run q (clicks.map .toggleSort) =
    q.columns.toggleSorts clicks >>= fun cs => .ok { q with columns := cs } := by
  induction clicks generalizing q with
  | nil => rfl
  | cons i clicks ih =>
    rw [List.map_cons, run_cons_eq, apply_toggleSort, Columns.toggleSorts, List.foldlM_cons]
    cases q.columns.toggleSort i with
    | error e => rfl
    | ok cs => exact ih { q with columns := cs }

/-- A column added and then sorted by clicks. -/
theorem run_addField_toggleSort (path : String) (t : Option Direction) :
    c.run q (.addField path ::
        List.replicate (Direction.clicksTo t) (.toggleSort q.columns.length)) =
      c.schema.column q.model path >>= fun _ =>
        (q.columns.add path).sortTo q.columns.length t >>= fun cs =>
          .ok { q with columns := cs, rows := q.rows.map Row.extend } := by
  rw [run_cons_eq, apply_addField]
  cases c.schema.column q.model path with
  | error e => rfl
  | ok f =>
    rw [ok_bind, ok_bind, ok_bind, ← List.map_replicate, run_toggleSorts, Columns.sortTo_add]

end Composer

/-! ## Section 3: Steps of drafts -/

/-- The commands that a step stands for when it is taken on a query. -/
def DraftStep.commands (q : Query) : DraftStep → List Command
  | .field path => [.addField path]
  | .fields paths => paths.map .addField
  | .defaultSortedField path => [.addFieldWithDefaultSort path]
  | .sortBy path direction =>
    .addField path ::
      List.replicate (Direction.clicksTo (some direction)) (.toggleSort q.columns.length)
  | .filter path lookup value =>
    [.addFilter path, .setFilterLookup q.filters.length lookup,
      .setFilterValue q.filters.length value]
  | .defaultFilters => [.applyDefaultFilters]
  | .limit raw => [.setLimit raw]
  | .command c => [c]

namespace Draft

variable (d : Draft)

theorem outcome_command (command : Command) :
    (d.command command).outcome = d.outcome >>= fun q => d.composer.run q [command] := by
  unfold Draft.command
  cases hq : d.outcome with
  | error e => rfl
  | ok q =>
    show d.composer.apply q command = d.composer.apply q command >>= fun q' => .ok q'
    cases d.composer.apply q command <;> rfl

/-- Commands given to a draft one by one are a run. -/
theorem outcome_commands (commands : List Command) :
    (commands.foldl Draft.command d).outcome =
      d.outcome >>= fun q => d.composer.run q commands := by
  induction commands generalizing d with
  | nil =>
    show d.outcome = d.outcome >>= fun q => .ok q
    cases d.outcome <;> rfl
  | cons command commands ih =>
    rw [List.foldl_cons, ih]
    show ((d.outcome >>= fun q => d.composer.apply q command) >>= fun q =>
        d.composer.run q commands) = _
    cases d.outcome <;> rfl

theorem outcome_sortBy (path : String) (direction : Direction) :
    (d.sortBy path direction).outcome = d.outcome >>= fun q =>
      d.composer.run q ((DraftStep.sortBy path direction).commands q) := by
  show (((d.outcome >>= fun q => d.composer.apply q (.addField path)) >>= fun q =>
      q.columns.sortTo (q.columns.length - 1) (some direction) >>= fun cs =>
        .ok { q with columns := cs }) : Except QueryError Query) = _
  cases d.outcome with
  | error e => rfl
  | ok q =>
    show (d.composer.apply q (.addField path) >>= _) = d.composer.run q _
    rw [DraftStep.commands, Composer.run_addField_toggleSort, Composer.apply_addField]
    cases d.composer.schema.column q.model path with
    | error e => rfl
    | ok f =>
      -- the column that was added is the last one
      have hlast : (q.columns.add path).length - 1 = q.columns.length := by simp [Columns.add]
      simp only [ok_bind, hlast]

theorem outcome_filter (path lookup value : String) :
    (d.filter path lookup value).outcome = d.outcome >>= fun q =>
      d.composer.run q ((DraftStep.filter path lookup value).commands q) := by
  have hadded : (d.command (.addFilter path)).outcome =
      d.outcome >>= fun q => d.composer.apply q (.addFilter path) := rfl
  unfold Draft.filter
  simp only
  cases hq : d.outcome with
  | error e =>
    rw [hq] at hadded
    simp [hadded]
  | ok q =>
    rw [hq, ok_bind] at hadded
    rw [ok_bind, DraftStep.commands, Composer.run_cons_eq]
    cases happly : d.composer.apply q (.addFilter path) with
    | error e =>
      rw [happly] at hadded
      simp [hadded]
    | ok q₁ =>
      rw [happly] at hadded
      -- the filter that was added is the last one
      have hlast : q₁.filters.length - 1 = q.filters.length := by
        cases Composer.apply_eq_ok_iff_step.mp happly with
        | addFilter _ => simp
      have htwo := (d.command (.addFilter path)).outcome_commands
        [.setFilterLookup q.filters.length lookup, .setFilterValue q.filters.length value]
      rw [hadded, ok_bind] at htwo
      rw [hadded]
      simp only [hlast]
      exact htwo

/-- A step is the run of the commands that it stands for. -/
theorem outcome_step (step : DraftStep) :
    (d.step step).outcome = d.outcome >>= fun q => d.composer.run q (step.commands q) :=
  match step with
  | .field path => d.outcome_command (.addField path)
  | .fields paths => by
    have hfields : paths.foldl field d = (paths.map .addField).foldl Draft.command d := by
      rw [List.foldl_map]
      rfl
    show (paths.foldl field d).outcome = _
    rw [hfields, outcome_commands]
    rfl
  | .defaultSortedField path => d.outcome_command (.addFieldWithDefaultSort path)
  | .sortBy path direction => d.outcome_sortBy path direction
  | .filter path lookup value => d.outcome_filter path lookup value
  | .defaultFilters => d.outcome_command .applyDefaultFilters
  | .limit raw => d.outcome_command (.setLimit raw)
  | .command c => d.outcome_command c

theorem composer_fields (paths : List String) : (paths.foldl field d).composer = d.composer := by
  induction paths generalizing d with
  | nil => rfl
  | cons path paths ih => exact ih (d.field path)

theorem composer_step (step : DraftStep) : (d.step step).composer = d.composer := by
  cases step with
  | fields paths => exact d.composer_fields paths
  | filter path lookup value =>
    simp only [Draft.step, Draft.filter]
    split <;> rfl
  | _ => rfl

/-- A draft is the run of its steps, each of them spelled out where the ones before it lead. -/
theorem outcome_steps (steps : List DraftStep) :
    (steps.foldl step d).outcome = d.outcome >>= fun q =>
      steps.foldlM (fun q step => d.composer.run q (step.commands q)) q := by
  induction steps generalizing d with
  | nil =>
    show d.outcome = d.outcome >>= fun q => .ok q
    cases d.outcome <;> rfl
  | cons step steps ih =>
    rw [List.foldl_cons, ih, outcome_step, composer_step]
    cases d.outcome <;> rfl

end Draft

/-- **Composite operations are runs of elementary commands.**  To add a column with the sort of
    its type is to add it and click on it, if there is such a column and its type is known.  A
    draft starts as any query on its model, and then runs through the commands that its steps
    stand for; where one of them fails, that is how the draft fails. -/
theorem composites_run_elementary_commands (s : Schema) :
    (∀ (c : Composer) (q : Query) (path : String),
      c.apply q (.addFieldWithDefaultSort path) =
        c.schema.column q.model path >>= fun f => c.schema.typeOf path f >>= fun t =>
          c.run q (.addField path ::
            List.replicate (Direction.clicksTo t.defaultSort) (.toggleSort q.columns.length))) ∧
    ∀ (model : String) (steps : List DraftStep),
      let c : Composer := { schema := s }
      Draft.build s model steps = c.initial model >>= fun q =>
        steps.foldlM (fun q step => c.run q (step.commands q)) q := by
  refine ⟨fun c q path => ?_, fun model steps => ?_⟩
  · rw [Composer.apply_addFieldWithDefaultSort]
    cases hf : c.schema.column q.model path with
    | error e => rfl
    | ok f =>
      rw [ok_bind, ok_bind]
      refine bind_congr fun t => ?_
      rw [Composer.run_addField_toggleSort, hf, ok_bind]
  · exact (Draft.on s model).outcome_steps steps

end QueryComposer
