import QueryComposer.Proofs.Sorting.MoveToFront
import QueryComposer.Query.Command

/-! # One command at a time

    A command either fails and changes nothing, or takes the query to the
    next one.  `Composer.Step` lists the successful cases, one constructor
    for each command, with what the command demands and what it replaces.
    Everything that a run of commands keeps is proved from these cases; no
    later proof opens the definition of a patch. -/

namespace QueryComposer

open Outcome

/-! ## Section 1: Edits of the filters -/

namespace Filters

variable {fs fs' : Filters} {i : Nat}

theorem get_eq_ok {f : Filter} : fs.get i = .ok f ↔ fs[i]? = some f := by
  unfold get
  cases fs[i]? <;> simp

theorem remove_eq_ok : fs.remove i = .ok fs' ↔ ∃ f, fs[i]? = some f ∧ fs' = fs.eraseIdx i := by
  unfold remove
  rw [bind_eq_ok]
  simp only [get_eq_ok, pure_eq_ok, Except.ok.injEq, eq_comm (a := fs')]

theorem setValue_eq_ok {value : String} : fs.setValue i value = .ok fs' ↔
    ∃ f, fs[i]? = some f ∧ fs' = fs.set i { f with value } := by
  unfold setValue
  rw [bind_eq_ok]
  simp only [get_eq_ok, pure_eq_ok, Except.ok.injEq, eq_comm (a := fs')]

theorem setLookup_eq_ok {lookup : String} : fs.setLookup i lookup = .ok fs' ↔
    ∃ f, fs[i]? = some f ∧ fs' = fs.set i { f with lookup } := by
  unfold setLookup
  rw [bind_eq_ok]
  simp only [get_eq_ok, pure_eq_ok, Except.ok.injEq, eq_comm (a := fs')]

theorem add_eq_ok {s : Schema} {model path : String} : fs.add s model path = .ok fs' ↔
    ∃ f, s.newFilter model path = .ok f ∧ fs' = fs ++ [f] := by
  unfold add
  rw [bind_eq_ok]
  simp [eq_comm]

end Filters

/-! ## Section 2: The step relation -/

namespace Composer

/-- A command done: what it demands of the schema and the query, and the query that it
    leads to. -/
inductive Step (c : Composer) (q : Query) : Command → Query → Prop where
  | setModel {model : String} {m : Model} : c.schema.model model = .ok m →
      Step c q (.setModel model)
        { model, columns := [], filters := [], rows := [], limit := c.defaultLimit }
  | addField {path : String} {f : Field} : c.schema.column q.model path = .ok f →
      Step c q (.addField path)
        { q with columns := q.columns.add path, rows := q.rows.map Row.extend }
  | addFieldWithDefaultSort {path : String} {f : Field} {t : FieldType} {cs : Columns} :
      c.schema.column q.model path = .ok f → c.schema.typeOf path f = .ok t →
      (q.columns.add path).sortTo q.columns.length t.defaultSort = .ok cs →
      Step c q (.addFieldWithDefaultSort path)
        { q with columns := cs, rows := q.rows.map Row.extend }
  | removeField {i : Nat} {cs : Columns} : q.columns.remove i = .ok cs →
      Step c q (.removeField i) { q with columns := cs, rows := q.rows.map (Row.removeCell i) }
  | toggleSort {i : Nat} {cs : Columns} : q.columns.toggleSort i = .ok cs →
      Step c q (.toggleSort i) { q with columns := cs }
  | addFilter {path : String} {f : Filter} : c.schema.newFilter q.model path = .ok f →
      Step c q (.addFilter path) { q with filters := q.filters ++ [f] }
  | removeFilter {i : Nat} {f : Filter} : q.filters[i]? = some f →
      Step c q (.removeFilter i) { q with filters := q.filters.eraseIdx i }
  | setFilterValue {i : Nat} {f : Filter} {value : String} : q.filters[i]? = some f →
      Step c q (.setFilterValue i value) { q with filters := q.filters.set i { f with value } }
  | setFilterLookup {i : Nat} {f : Filter} {lookup : String} : q.filters[i]? = some f →
      c.schema.checkLookup q.model f.path lookup = .ok () →
      Step c q (.setFilterLookup i lookup) { q with filters := q.filters.set i { f with lookup } }
  | applyDefaultFilters {fs : Filters} : Filters.defaults c.schema q.model = .ok fs →
      Step c q .applyDefaultFilters { q with filters := q.filters ++ fs }
  | setFilterErrors {messages : List (Option String)} :
      Step c q (.setFilterErrors messages) { q with filters := q.filters.setMessages messages }
  | setData {rows : List Row} : q.columns.checkRows rows = .ok () →
      Step c q (.setData rows) { q with rows }
  | setLimit {raw : String} {limit : Nat} : Limit.parse raw = .ok limit →
      Step c q (.setLimit raw) { q with limit }

variable {c : Composer} {q q' : Query} {command : Command}

theorem apply_eq_ok : c.apply q command = .ok q' ↔
    ∃ p, c.patch q command = .ok p ∧ q' = q.merge p := by
  unfold apply
  rw [bind_eq_ok]
  simp [eq_comm]

/-- A command succeeds exactly when there is a step, and leads where the step leads. -/
theorem apply_eq_ok_iff_step : c.apply q command = .ok q' ↔ c.Step q command q' := by
  rw [apply_eq_ok]
  constructor
  · intro hex
    obtain ⟨p, hp, rfl⟩ := hex
    cases command with
    | setModel model =>
      obtain ⟨m, hm, h⟩ := bind_eq_ok.mp hp
      cases h
      exact .setModel hm
    | addField path =>
      obtain ⟨f, hf, h⟩ := bind_eq_ok.mp hp
      cases h
      exact .addField hf
    | addFieldWithDefaultSort path =>
      obtain ⟨f, hf, h⟩ := bind_eq_ok.mp hp
      obtain ⟨t, ht, h⟩ := bind_eq_ok.mp h
      obtain ⟨cs, hcs, h⟩ := bind_eq_ok.mp h
      cases h
      exact .addFieldWithDefaultSort hf ht hcs
    | removeField i =>
      obtain ⟨cs, hcs, h⟩ := bind_eq_ok.mp hp
      cases h
      exact .removeField hcs
    | toggleSort i =>
      obtain ⟨cs, hcs, h⟩ := bind_eq_ok.mp hp
      cases h
      exact .toggleSort hcs
    | addFilter path =>
      obtain ⟨fs, hfs, h⟩ := bind_eq_ok.mp hp
      obtain ⟨f, hf, rfl⟩ := Filters.add_eq_ok.mp hfs
      cases h
      exact .addFilter hf
    | removeFilter i =>
      obtain ⟨fs, hfs, h⟩ := bind_eq_ok.mp hp
      obtain ⟨f, hf, rfl⟩ := Filters.remove_eq_ok.mp hfs
      cases h
      exact .removeFilter hf
    | setFilterValue i value =>
      obtain ⟨fs, hfs, h⟩ := bind_eq_ok.mp hp
      obtain ⟨f, hf, rfl⟩ := Filters.setValue_eq_ok.mp hfs
      cases h
      exact .setFilterValue hf
    | setFilterLookup i lookup =>
      obtain ⟨fs, hfs, h⟩ := bind_eq_ok.mp hp
      obtain ⟨f, hf, rfl⟩ := Filters.setLookup_eq_ok.mp hfs
      obtain ⟨f', hf', h'⟩ := bind_eq_ok.mp h
      rw [Filters.get_eq_ok, List.getElem?_set_self (List.getElem?_eq_some_iff.mp hf).1] at hf'
      cases hf'
      obtain ⟨⟨⟩, hcheck, hp⟩ := bind_eq_ok.mp h'
      cases hp
      exact .setFilterLookup hf hcheck
    | applyDefaultFilters =>
      obtain ⟨fs, hfs, h⟩ := bind_eq_ok.mp hp
      cases h
      exact .applyDefaultFilters hfs
    | setFilterErrors messages =>
      cases hp
      exact .setFilterErrors
    | setData rows =>
      obtain ⟨⟨⟩, hrows, h⟩ := bind_eq_ok.mp hp
      cases h
      exact .setData hrows
    | setLimit raw =>
      obtain ⟨n, hn, h⟩ := bind_eq_ok.mp hp
      cases h
      exact .setLimit hn
  · intro h
    cases h with
    | setModel hm => exact ⟨_, bind_eq_ok.mpr ⟨_, hm, rfl⟩, rfl⟩
    | addField hf => exact ⟨_, bind_eq_ok.mpr ⟨_, hf, rfl⟩, rfl⟩
    | addFieldWithDefaultSort hf ht hcs =>
      exact ⟨_, bind_eq_ok.mpr ⟨_, hf, bind_eq_ok.mpr ⟨_, ht, bind_eq_ok.mpr ⟨_, hcs, rfl⟩⟩⟩, rfl⟩
    | removeField hcs => exact ⟨_, bind_eq_ok.mpr ⟨_, hcs, rfl⟩, rfl⟩
    | toggleSort hcs => exact ⟨_, bind_eq_ok.mpr ⟨_, hcs, rfl⟩, rfl⟩
    | addFilter hf =>
      exact ⟨_, bind_eq_ok.mpr ⟨_, Filters.add_eq_ok.mpr ⟨_, hf, rfl⟩, rfl⟩, rfl⟩
    | removeFilter hf =>
      exact ⟨_, bind_eq_ok.mpr ⟨_, Filters.remove_eq_ok.mpr ⟨_, hf, rfl⟩, rfl⟩, rfl⟩
    | setFilterValue hf =>
      exact ⟨_, bind_eq_ok.mpr ⟨_, Filters.setValue_eq_ok.mpr ⟨_, hf, rfl⟩, rfl⟩, rfl⟩
    | setFilterLookup hf hcheck =>
      have hlt := (List.getElem?_eq_some_iff.mp hf).1
      exact ⟨_, bind_eq_ok.mpr ⟨_, Filters.setLookup_eq_ok.mpr ⟨_, hf, rfl⟩,
        bind_eq_ok.mpr ⟨_, Filters.get_eq_ok.mpr (List.getElem?_set_self hlt),
          bind_eq_ok.mpr ⟨_, hcheck, rfl⟩⟩⟩, rfl⟩
    | applyDefaultFilters hfs => exact ⟨_, bind_eq_ok.mpr ⟨_, hfs, rfl⟩, rfl⟩
    | setFilterErrors => exact ⟨_, rfl, rfl⟩
    | setData hrows => exact ⟨_, bind_eq_ok.mpr ⟨_, hrows, rfl⟩, rfl⟩
    | setLimit hn => exact ⟨_, bind_eq_ok.mpr ⟨_, hn, rfl⟩, rfl⟩

/-! ## Section 3: Runs -/

theorem run_cons {commands : List Command} : c.run q (command :: commands) = .ok q' ↔
    ∃ q₁, c.Step q command q₁ ∧ c.run q₁ commands = .ok q' := by
  unfold run
  rw [List.foldlM_cons, bind_eq_ok]
  simp only [apply_eq_ok_iff_step]

/-- What the steps of some commands keep, a run of them keeps. -/
theorem run_preserves_of_mem {P : Query → Prop} {commands : List Command}
    (hstep : ∀ command ∈ commands, ∀ q q', c.Step q command q' → P q → P q')
    (h : c.run q commands = .ok q') (hq : P q) : P q' :=
  foldlM_preserves_of_mem
    (fun command hmem q q' h => hstep command hmem q q' (apply_eq_ok_iff_step.mp h)) h hq

/-- What every step keeps, a whole run keeps. -/
theorem run_preserves {P : Query → Prop}
    (hstep : ∀ q command q', c.Step q command q' → P q → P q') {commands : List Command}
    (h : c.run q commands = .ok q') (hq : P q) : P q' :=
  run_preserves_of_mem (fun command _ q q' => hstep q command q') h hq

end Composer

end QueryComposer
