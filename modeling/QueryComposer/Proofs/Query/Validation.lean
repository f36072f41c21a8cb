import Mathlib.Data.List.Perm.Subperm
import QueryComposer.Proofs.Query.WellFormed

/-! # What validation finds

    Validation looks at the rows first and at the priorities after that.  It
    sorts the priorities and compares them with the numbers from 0 up; what it
    finds out that way is stated here without any sorting.

    * `Columns.Enumerated` says that the priorities number the sorted columns,
      one column for each number.
    * `Query.Flaw` says what is wrong with a query: the first row of a wrong
      width, or else the priorities.
    * `Query.validate_finds_flaws`: a query is valid exactly without flaws, and
      the error of one that is not is its flaw. -/

namespace QueryComposer

open Outcome

/-! ## Section 1: Priorities as an enumeration -/

namespace Columns

variable {cs : Columns}

/-- Exactly the sorted columns have a priority, and each number below the count of them is the
    priority of exactly one column. -/
structure Enumerated (cs : Columns) : Prop where
  priority_iff_sort : ∀ c ∈ cs, c.priority.isSome = true ↔ c.sort.isSome = true
  exactly_one : ∀ r < cs.sortedCount, ∃! i, cs.priorityAt i = some r

theorem enumerated_iff_dense : cs.Enumerated ↔ cs.Dense := by
  constructor
  · intro h
    have hmatch : cs.PrioritiesMatch := fun c hc => Bool.eq_iff_iff.mpr (h.priority_iff_sort c hc).symm
    -- as many numbers as there are places, and none of them missing
    have hsubset : List.range cs.sortedCount ⊆ cs.priorities := by
      intro r hr
      obtain ⟨i, hi, -⟩ := h.exactly_one r (List.mem_range.mp hr)
      exact mem_priorities.mpr ⟨i, hi⟩
    have hsubperm := List.subperm_of_subset List.nodup_range hsubset
    have hlen : cs.priorities.length = (List.range cs.sortedCount).length := by
      rw [length_priorities hmatch, List.length_range]
    exact ⟨hmatch, (hsubperm.perm_of_length_le (Nat.le_of_eq hlen)).symm⟩
  · intro h
    have hlen : cs.order.length = cs.sortedCount := by
      have hranks := congrArg List.length h.fst_ranking
      rw [List.length_map, List.length_range] at hranks
      rw [order, List.length_map, hranks]
    refine ⟨fun c hc => by rw [h.sorted_iff c hc], fun r hr => ?_⟩
    -- the column at place `r` of the order is the one
    have hplace : cs.order[r]? = some cs.order[r] := List.getElem?_eq_getElem (hlen ▸ hr)
    refine ⟨cs.order[r], (h.ranked.priorityAt_iff _ _).mpr hplace, fun i hi => ?_⟩
    have hother : cs.order[r]? = some i := (h.ranked.priorityAt_iff i r).mp hi
    rw [hplace] at hother
    exact (Option.some.inj hother).symm

/-- The first row that has not one cell for each column, and its place. -/
structure FirstMisfit (cs : Columns) (rows : List Row) (i : Nat) (row : Row) : Prop where
  row_eq : rows[i]? = some row
  misfit : row.length ≠ cs.length
  before : ∀ j < i, ∀ row', rows[j]? = some row' → row'.length = cs.length

theorem findIdx?_eq_some_iff_firstMisfit {rows : List Row} {i : Nat} :
    rows.findIdx? (·.length ≠ cs.length) = some i ↔ ∃ row, cs.FirstMisfit rows i row := by
  rw [List.findIdx?_eq_some_iff_getElem]
  constructor
  · intro ⟨hlt, hmisfit, hbefore⟩
    refine ⟨rows[i], List.getElem?_eq_getElem hlt, by simpa using hmisfit, ?_⟩
    intro j hj row hrow
    obtain ⟨hlt', rfl⟩ := List.getElem?_eq_some_iff.mp hrow
    simpa using hbefore j hj
  · intro ⟨row, h⟩
    obtain ⟨hlt, rfl⟩ := List.getElem?_eq_some_iff.mp h.row_eq
    refine ⟨hlt, by simpa using h.misfit, ?_⟩
    intro j hj
    have hfits := h.before j hj rows[j] (List.getElem?_eq_getElem (Nat.lt_trans hj hlt))
    simpa using hfits

theorem checkRows_eq_error {rows : List Row} {e : QueryError} : cs.checkRows rows = .error e ↔
    ∃ i row, cs.FirstMisfit rows i row ∧ e = .columnMismatch i cs.length row.length := by
  constructor
  · intro h
    unfold checkRows at h
    split at h
    next i hi =>
      obtain ⟨row, hfirst⟩ := findIdx?_eq_some_iff_firstMisfit.mp hi
      cases h
      exact ⟨i, row, hfirst, by rw [hfirst.row_eq]; rfl⟩
    next => cases h
  · intro hex
    obtain ⟨i, row, hfirst, rfl⟩ := hex
    have hi := findIdx?_eq_some_iff_firstMisfit.mpr ⟨row, hfirst⟩
    rw [checkRows, hi]
    simp [hfirst.row_eq]

end Columns

/-! ## Section 2: The flaws of a query -/

namespace Query

variable {q : Query} {e : QueryError}

/-- What is wrong with a query, as it is reported: the first row of a wrong width, whatever the
    priorities are, or else priorities that do not number the sorted columns. -/
inductive Flaw (q : Query) : QueryError → Prop where
  | row {i : Nat} {row : Row} : q.columns.FirstMisfit q.rows i row →
      Flaw q (.columnMismatch i q.columns.length row.length)
  | priorities : (∀ row ∈ q.rows, row.length = q.columns.length) → ¬ q.columns.Enumerated →
      Flaw q (.malformedFields q.columns.segment)

theorem validate_eq_error : q.validate = .error e ↔ q.Flaw e := by
  have hdense : q.columns.isDense = true ↔ q.columns.Enumerated :=
    Columns.isDense_iff.trans Columns.enumerated_iff_dense.symm
  unfold validate
  constructor
  · intro h
    cases hrows : q.columns.checkRows q.rows with
    | error e' =>
      obtain ⟨i, row, hfirst, rfl⟩ := Columns.checkRows_eq_error.mp hrows
      rw [hrows] at h
      cases h
      exact .row hfirst
    | ok _ =>
      rw [hrows, ok_bind] at h
      split at h
      next => cases h
      next hnot =>
        cases h
        exact .priorities (Columns.checkRows_eq_ok.mp hrows) fun henum => hnot (hdense.mpr henum)
  · intro h
    cases h with
    | row hfirst =>
      rw [Columns.checkRows_eq_error.mpr ⟨_, _, hfirst, rfl⟩]
      rfl
    | priorities hrows hnot =>
      rw [Columns.checkRows_eq_ok.mpr hrows, ok_bind, if_neg fun h => hnot (hdense.mp h)]
      rfl

/-- **Validation finds every flaw.**  A query is valid exactly if its rows have one cell for each
    column and its priorities number the sorted columns.  It fails with the first row that has
    not, whatever the priorities are, and otherwise with the text of the columns. -/
theorem validate_finds_flaws (q : Query) :
    (q.validate = .ok () ↔
      (∀ row ∈ q.rows, row.length = q.columns.length) ∧ q.columns.Enumerated) ∧
    ∀ e, q.validate = .error e ↔ q.Flaw e := by
  refine ⟨?_, fun e => validate_eq_error⟩
  rw [validate_eq_ok, Columns.enumerated_iff_dense]

/-- A row that is too short is reported although two columns have one priority as well. -/
example : validate
    { model := "person"
      columns := [.sorted "name" .ascending 0, .sorted "age" .descending 0]
      filters := []
      rows := [[.string "Ann", .null], [.null]]
      limit := 1 } = .error (.columnMismatch 1 2 1) := by rfl

end Query

end QueryComposer
