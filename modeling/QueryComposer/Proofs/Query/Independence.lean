import QueryComposer.Proofs.Query.WellFormed

/-! # Edits of different parts are independent

    Apart from the model, a query has three parts: the table, which is made of
    columns and rows, the filters, and the row limit.  Every command but the
    choice of a model edits one of them, and reads nothing but that part and the
    model, also where it finds out whether it can be done at all.

    * `Part.graft` puts the model and one part of a query into another query.
    * A step is kept by grafting, and changes nothing but what it edits.
    * So a run comes apart into one run for each part, in whatever order the
      commands of the three runs are mixed. -/

namespace QueryComposer

/-! ## Section 1: Parts of a query -/

namespace Query

/-- What a command edits. -/
inductive Part where
  /-- Columns and rows. -/
  | table
  /-- The filters. -/
  | filters
  /-- The row limit. -/
  | limit
deriving DecidableEq, Repr

namespace Part

/-- The query `r` with the model and one part of `q` in place of its own. -/
def graft (p : Part) (q r : Query) : Query :=
  match p with
  | table => { r with model := q.model, columns := q.columns, rows := q.rows }
  | filters => { r with model := q.model, filters := q.filters }
  | limit => { r with model := q.model, limit := q.limit }

variable (p p' : Part) (q q' r t : Query)

@[simp] theorem graft_self : p.graft q q = q := by
  cases p <;> rfl

/-- What was put in before gives way. -/
@[simp] theorem graft_graft : p.graft q (p.graft r t) = p.graft q t := by
  cases p <;> rfl

/-- What was put in is what comes out. -/
@[simp] theorem graft_of_graft : p.graft (p.graft q r) t = p.graft q t := by
  cases p <;> rfl

variable {p p' q q'}

/-- Nothing but the part and the model is put in. -/
theorem graft_of_graft_ne (hne : p' ≠ p) (hmodel : q'.model = q.model) :
    p'.graft (p.graft q' q) r = p'.graft q r := by
  cases p <;> cases p' <;> first | exact absurd rfl hne | simp only [graft, hmodel]

end Part

end Query

open Query (Part)

/-- The part that a command edits; a model is not chosen by editing. -/
def Command.part? : Command → Option Part
  | setModel _ => none
  | addField _ | addFieldWithDefaultSort _ | removeField _ | toggleSort _ | setData _ => some .table
  | addFilter _ | removeFilter _ | setFilterValue .. | setFilterLookup .. | applyDefaultFilters
  | setFilterErrors _ => some .filters
  | setLimit _ => some .limit

/-- The commands that edit a part, in their order. -/
def Command.editing (p : Part) (commands : List Command) : List Command :=
  commands.filter (·.part? = some p)

namespace Command

variable {p p' : Part} {command : Command} {commands : List Command}

theorem part?_isSome (h : ∀ model, command ≠ .setModel model) : ∃ p, command.part? = some p := by
  cases command with
  | setModel model => exact absurd rfl (h model)
  | _ => exact ⟨_, rfl⟩

theorem editing_cons_of_eq (h : command.part? = some p) :
    editing p (command :: commands) = command :: editing p commands :=
  List.filter_cons_of_pos (by simpa using h)

theorem editing_cons_of_ne (h : command.part? = some p') (hne : p' ≠ p) :
    editing p (command :: commands) = editing p commands :=
  List.filter_cons_of_neg (by simpa [h] using hne)

theorem part?_of_mem_editing (h : command ∈ editing p commands) : command.part? = some p := by
  simpa using (List.mem_filter.mp h).2

end Command

namespace Composer

variable {c : Composer} {q q' : Query} {command : Command} {commands : List Command} {p p' : Part}

/-! ## Section 2: What a step reads and writes -/

namespace Step

/-- A step can be done wherever the model and the part that it edits are the same. -/
theorem graft (h : c.Step q command q') (hp : command.part? = some p) (r : Query) :
    c.Step (p.graft q r) command (p.graft q' r) := by
  cases h with
  | setModel _ => cases hp
  | addField hf => cases hp; exact .addField hf
  | addFieldWithDefaultSort hf ht hcs => cases hp; exact .addFieldWithDefaultSort hf ht hcs
  | removeField hcs => cases hp; exact .removeField hcs
  | toggleSort hcs => cases hp; exact .toggleSort hcs
  | addFilter hf => cases hp; exact .addFilter hf
  | removeFilter hf => cases hp; exact .removeFilter hf
  | setFilterValue hf => cases hp; exact .setFilterValue hf
  | setFilterLookup hf hcheck => cases hp; exact .setFilterLookup hf hcheck
  | applyDefaultFilters hfs => cases hp; exact .applyDefaultFilters hfs
  | setFilterErrors => cases hp; exact .setFilterErrors
  | setData hrows => cases hp; exact .setData hrows
  | setLimit hn => cases hp; exact .setLimit hn

/-- A step keeps the model and changes nothing but the part that it edits. -/
theorem frame (h : c.Step q command q') (hp : command.part? = some p) :
    q'.model = q.model ∧ p.graft q' q = q' := by
  cases h <;> cases hp <;> exact ⟨rfl, rfl⟩

/-- The other parts are the same before and after a step. -/
theorem graft_other (h : c.Step q command q') (hp : command.part? = some p) (hne : p' ≠ p)
    (r : Query) : p'.graft q' r = p'.graft q r := by
  obtain ⟨hmodel, hsame⟩ := h.frame hp
  rw [← hsame]
  exact Part.graft_of_graft_ne r hne hmodel

end Step

/-! ## Section 3: Runs on one part -/

/-- A run on one part can be done wherever this part and the model are the same. -/
theorem run_graft (hp : ∀ command ∈ commands, command.part? = some p)
    (h : c.run q commands = .ok q') (r : Query) :
    c.run (p.graft q r) commands = .ok (p.graft q' r) := by
  induction commands generalizing q with
  | nil =>
    cases h
    rfl
  | cons command commands ih =>
    rw [List.forall_mem_cons] at hp
    obtain ⟨q₁, hstep, hrun⟩ := run_cons.mp h
    exact run_cons.mpr ⟨_, hstep.graft hp.1 r, ih hp.2 hrun⟩

/-- Where the other commands are left out, a run still does to a part what it did. -/
theorem run_editing (hedit : ∀ command ∈ commands, ∀ model, command ≠ .setModel model)
    (h : c.run q commands = .ok q') (p : Part) :
    c.run q (Command.editing p commands) = .ok (p.graft q' q) := by
  induction commands generalizing q with
  | nil =>
    cases h
    exact congrArg Except.ok (p.graft_self _).symm
  | cons command commands ih =>
    rw [List.forall_mem_cons] at hedit
    obtain ⟨q₁, hstep, hrun⟩ := run_cons.mp h
    obtain ⟨p', hp'⟩ := Command.part?_isSome hedit.1
    have hrest := ih hedit.2 hrun
    by_cases hp : p' = p
    · -- the command is part of the run, which goes on from where it leads
      subst hp
      rw [Command.editing_cons_of_eq hp']
      have hsame : p'.graft q' q₁ = p'.graft q' q := by
        rw [← (hstep.frame hp').2, Part.graft_graft]
      exact run_cons.mpr ⟨q₁, hstep, hsame ▸ hrest⟩
    · -- the command is left out, and the rest does not notice
      rw [Command.editing_cons_of_ne hp' hp]
      have hback := run_graft (fun _ => Command.part?_of_mem_editing) hrest q
      rwa [hstep.graft_other hp' (Ne.symm hp), Part.graft_self, Part.graft_of_graft] at hback

/-- If the commands on each part succeed by themselves, they succeed together. -/
theorem exists_run_of_run_editing
    (hedit : ∀ command ∈ commands, ∀ model, command ≠ .setModel model)
    (h : ∀ p, ∃ q', c.run q (Command.editing p commands) = .ok q') :
    ∃ q', c.run q commands = .ok q' := by
  induction commands generalizing q with
  | nil => exact ⟨_, rfl⟩
  | cons command commands ih =>
    rw [List.forall_mem_cons] at hedit
    obtain ⟨p, hp⟩ := Command.part?_isSome hedit.1
    obtain ⟨q', hown⟩ := h p
    rw [Command.editing_cons_of_eq hp] at hown
    obtain ⟨q₁, hstep, hown⟩ := run_cons.mp hown
    -- the first command is done on its own part, and the other runs start anew behind it
    have hrest : ∀ p', ∃ q', c.run q₁ (Command.editing p' commands) = .ok q' := by
      intro p'
      by_cases hp' : p' = p
      · exact ⟨q', hp' ▸ hown⟩
      · obtain ⟨q'', hother⟩ := h p'
        rw [Command.editing_cons_of_ne hp (Ne.symm hp')] at hother
        have hmoved := run_graft (fun _ => Command.part?_of_mem_editing) hother q₁
        rw [← hstep.graft_other hp hp', Part.graft_self] at hmoved
        exact ⟨_, hmoved⟩
    obtain ⟨q'', hrun⟩ := ih hedit.2 hrest
    exact ⟨q'', run_cons.mpr ⟨q₁, hstep, hrun⟩⟩

/-! ## Section 4: Runs on all parts -/

theorem model_of_run (hedit : ∀ command ∈ commands, ∀ model, command ≠ .setModel model)
    (h : c.run q commands = .ok q') : q'.model = q.model := by
  have hstep : ∀ command ∈ commands, ∀ q₁ q₂, c.Step q₁ command q₂ →
      q₁.model = q.model → q₂.model = q.model := by
    intro command hmem q₁ q₂ hstep hmodel
    obtain ⟨p, hp⟩ := Command.part?_isSome (hedit command hmem)
    exact (hstep.frame hp).1.trans hmodel
  exact run_preserves_of_mem hstep h rfl

/-- A run is one run for each part, and takes from each what it edits. -/
theorem run_eq_ok_iff_editing (hedit : ∀ command ∈ commands, ∀ model, command ≠ .setModel model) :
    c.run q commands = .ok q' ↔ ∃ qt qf ql,
      c.run q (Command.editing .table commands) = .ok qt ∧
      c.run q (Command.editing .filters commands) = .ok qf ∧
      c.run q (Command.editing .limit commands) = .ok ql ∧
      q' = { model := q.model, columns := qt.columns, filters := qf.filters, rows := qt.rows,
             limit := ql.limit } := by
  have hparts : ∀ q', c.run q commands = .ok q' →
      ∀ p, c.run q (Command.editing p commands) = .ok (Part.graft p q' q) :=
    fun _ h p => run_editing hedit h p
  constructor
  · intro h
    refine ⟨_, _, _, hparts q' h .table, hparts q' h .filters, hparts q' h .limit, ?_⟩
    rw [← model_of_run hedit h]
    rfl
  · intro ⟨qt, qf, ql, ht, hf, hl, heq⟩
    obtain ⟨q'', hrun⟩ : ∃ q'', c.run q commands = .ok q'' := by
      refine exists_run_of_run_editing hedit fun p => ?_
      match p with
      | .table => exact ⟨qt, ht⟩
      | .filters => exact ⟨qf, hf⟩
      | .limit => exact ⟨ql, hl⟩
    -- the three runs are those of the whole run, so they lead where it leads
    have ht' := Except.ok.inj (ht.symm.trans (hparts q'' hrun .table))
    have hf' := Except.ok.inj (hf.symm.trans (hparts q'' hrun .filters))
    have hl' := Except.ok.inj (hl.symm.trans (hparts q'' hrun .limit))
    rw [hrun, heq, ht', hf', hl', ← model_of_run hedit hrun]
    rfl

/-- **Edits of different parts are independent.**  Commands that choose no model succeed
    exactly when those on the table, on the filters and on the row limit succeed by
    themselves, and lead to the query that has its parts from the three runs.  So only the
    order of the commands on each part counts. -/
theorem run_iff_runs_on_parts (c : Composer) (q : Query) (commands : List Command)
    (hedit : ∀ command ∈ commands, ∀ model, command ≠ .setModel model) :
    (∀ q', c.run q commands = .ok q' ↔ ∃ qt qf ql,
      c.run q (Command.editing .table commands) = .ok qt ∧
      c.run q (Command.editing .filters commands) = .ok qf ∧
      c.run q (Command.editing .limit commands) = .ok ql ∧
      q' = { model := q.model, columns := qt.columns, filters := qf.filters, rows := qt.rows,
             limit := ql.limit }) ∧
    ∀ others, (∀ command ∈ others, ∀ model, command ≠ .setModel model) →
      (∀ p, Command.editing p others = Command.editing p commands) →
      ∀ q', c.run q others = .ok q' ↔ c.run q commands = .ok q' := by
  refine ⟨fun q' => run_eq_ok_iff_editing hedit, ?_⟩
  intro others hothers hsame q'
  rw [run_eq_ok_iff_editing hothers, run_eq_ok_iff_editing hedit, hsame .table, hsame .filters,
    hsame .limit]

/-- The table, the filters and the row limit edited in turn. -/
def inTurn : List Command :=
  [.addField "name", .addFilter "age", .setLimit "20", .toggleSort 0, .setFilterValue 0 "30",
    .setData [[emptyCell]]]

/-- The same edits, part by part. -/
def partByPart : List Command :=
  [.setLimit "20", .addFilter "age", .setFilterValue 0 "30", .addField "name", .toggleSort 0,
    .setData [[emptyCell]]]

/-- What they lead to. -/
def edited : Query :=
  { model := "person"
    columns := [.sorted "name" .ascending 0]
    filters := [{ path := "age", lookup := "gte", value := "30" }]
    rows := [[emptyCell]]
    limit := 20 }

theorem run_iff_runs_on_parts_of_inTurn :
    (∀ command ∈ inTurn, ∀ model, command ≠ .setModel model) ∧
      (∀ p, Command.editing p partByPart = Command.editing p inTurn) ∧
      (forSchema .staff 10).run (.empty "person" 10) inTurn = .ok edited ∧
      (forSchema .staff 10).run (.empty "person" 10) partByPart = .ok edited := by
  have hedit : ∀ command ∈ inTurn, ∀ model, command ≠ .setModel model := by simp [inTurn]
  have hedit' : ∀ command ∈ partByPart, ∀ model, command ≠ .setModel model := by simp [partByPart]
  have hsame : ∀ p, Command.editing p partByPart = Command.editing p inTurn := by
    intro p
    cases p <;> rfl
  have hrun : (forSchema .staff 10).run (.empty "person" 10) inTurn = .ok edited := by rfl
  have hboth := run_iff_runs_on_parts (forSchema .staff 10) (.empty "person" 10) inTurn hedit
  exact ⟨hedit, hsame, hrun, (hboth.2 partByPart hedit' hsame edited).mpr hrun⟩

end Composer

end QueryComposer
