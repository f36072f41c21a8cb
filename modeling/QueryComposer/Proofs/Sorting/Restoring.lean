import Mathlib.Data.List.Sort
import QueryComposer.Proofs.Sorting.MoveToFront

/-! # Priorities restored

    Columns may come with priorities in any state: with ties and gaps, with none
    where the column is sorted, or with one where it is not.  Restoring puts the
    sorted columns in line and numbers them from 0 up.

    * `InLine` says who stands where in the line: the sorted columns that have a
      priority go by it, and by position where two have the same; those that
      have none follow from left to right.
    * Dense priorities are the normal form.  Restoring leads to it, and leaves it
      alone (`renumber_eq_self_iff`); a change is reported exactly where there
      is one (`renumberChanges_eq_false_iff`).
    * Where all sorted columns have a priority, the keys of the result stay what
      they were (`Numbered.sortKeys_renumber`). -/

namespace QueryComposer.Columns

variable {cs : Columns}

/-! ## Section 1: Who goes first -/

/-- The columns at two positions both have a priority, and the one at `i` goes first, by the
    priority or else by the position. -/
def Precedes (cs : Columns) (i j : Nat) : Prop :=
  match cs.priorityAt i, cs.priorityAt j with
  | some p, some q => p < q ∨ p = q ∧ i < j
  | _, _ => False

/-- A line of sorted columns, given by their positions: those with a priority in front, by
    priority and position, and those without one behind them, from left to right. -/
structure InLine (cs : Columns) (front back : List Nat) : Prop where
  mem_front : ∀ i, i ∈ front ↔ ∃ c, cs[i]? = some c ∧ c.isSorted = true ∧ c.priority.isSome = true
  mem_back : ∀ i, i ∈ back ↔ ∃ c, cs[i]? = some c ∧ c.isSorted = true ∧ c.priority = none
  front_pairwise : front.Pairwise cs.Precedes
  back_pairwise : back.Pairwise (· < ·)

instance : Std.Asymm cs.Precedes where
  asymm i j h := by
    unfold Precedes at *
    cases hp : cs.priorityAt i with
    | none => simp [hp] at h
    | some p =>
      cases hq : cs.priorityAt j with
      | none => simp [hp, hq] at h
      | some q =>
        simp only [hp, hq] at h ⊢
        omega

/-- There is only one such line. -/
theorem InLine.unique {front back front' back' : List Nat} (h : cs.InLine front back)
    (h' : cs.InLine front' back') : front' = front ∧ back' = back := by
  -- the columns of a part are given, and so is who of two goes first
  constructor
  · exact h'.front_pairwise.eq_of_mem_iff h.front_pairwise
      fun i => (h'.mem_front i).trans (h.mem_front i).symm
  · exact h'.back_pairwise.eq_of_mem_iff h.back_pairwise
      fun i => (h'.mem_back i).trans (h.mem_back i).symm

/-- A list in which nothing of a kind stands behind anything of another kind falls in two. -/
theorem eq_filter_append_filter {α : Type} {p : α → Bool} {xs : List α}
    (h : xs.Pairwise fun a b => p b = true → p a = true) :
    xs = xs.filter p ++ xs.filter (!p ·) := by
  induction xs with
  | nil => rfl
  | cons a xs ih =>
    obtain ⟨hfirst, hrest⟩ := List.pairwise_cons.mp h
    by_cases ha : p a = true
    · have hcut := ih hrest
      simp [ha, ← hcut]
    · -- once one is of the other kind, so are all behind it
      have hother : ∀ b ∈ xs, p b = false := by
        intro b hb
        rw [Bool.eq_false_iff]
        exact fun hp => ha (hfirst b hb hp)
      have hnone : xs.filter p = [] := by simpa using hother
      have hall : xs.filter (!p ·) = xs := by simpa using hother
      simp [ha, hnone, hall]

/-- The sorted columns stand in line by priority and position, the last rank standing in for a
    priority that is missing. -/
theorem pairwise_order : cs.order.Pairwise fun i j =>
    rankLT ((cs.priorityAt i).getD lastRank, i) ((cs.priorityAt j).getD lastRank, j) := by
  have hrank : ∀ r ∈ cs.ranking, r = ((cs.priorityAt r.2).getD lastRank, r.2) := by
    intro r hr
    obtain ⟨c, hi, -, hp⟩ := mem_ranking.mp hr
    simp [priorityAt, hi, hp]
  rw [order, List.pairwise_map]
  refine cs.ranking_pairwise_lt.imp_of_mem fun {a b} ha hb hab => ?_
  rwa [← hrank a ha, ← hrank b hb]

theorem mem_order_filter {p : Option Nat → Bool} {i : Nat} :
    i ∈ cs.order.filter (fun i => p (cs.priorityAt i)) ↔
      ∃ c, cs[i]? = some c ∧ c.isSorted = true ∧ p c.priority = true := by
  rw [List.mem_filter, mem_order]
  constructor
  · rintro ⟨⟨c, hi, hsorted⟩, hp⟩
    exact ⟨c, hi, hsorted, by simpa [priorityAt, hi] using hp⟩
  · rintro ⟨c, hi, hsorted, hp⟩
    exact ⟨⟨c, hi, hsorted⟩, by simpa [priorityAt, hi] using hp⟩

/-- The order is such a line. -/
theorem exists_inLine (hbits : ∀ c ∈ cs, ∀ p, c.priority = some p → p < lastRank) :
    ∃ front back, cs.InLine front back ∧ cs.order = front ++ back := by
  have hcut : cs.order = cs.order.filter (fun i => (cs.priorityAt i).isSome) ++
      cs.order.filter (fun i => !(cs.priorityAt i).isSome) := by
    apply eq_filter_append_filter
    refine pairwise_order.imp fun {i j} hij hj => ?_
    obtain ⟨q, hq⟩ := Option.isSome_iff_exists.mp hj
    cases hp : cs.priorityAt i with
    | some p => rfl
    | none =>
      -- the rank that stands in for a priority is greater than any priority
      obtain ⟨c, hc, hcq⟩ := Option.bind_eq_some_iff.mp hq
      have hlt : q < lastRank := hbits c (List.mem_of_getElem? hc) q hcq
      rw [hp, hq, rankLT_iff] at hij
      simp only [Option.getD_none, Option.getD_some] at hij
      omega
  refine ⟨_, _, ⟨fun i => mem_order_filter, fun i => ?_, ?_, ?_⟩, hcut⟩
  · rw [mem_order_filter (p := fun priority => !priority.isSome)]
    simp
  · refine (pairwise_order.filter _).imp_of_mem fun {i j} hi hj hij => ?_
    obtain ⟨p, hp⟩ := Option.isSome_iff_exists.mp (List.mem_filter.mp hi).2
    obtain ⟨q, hq⟩ := Option.isSome_iff_exists.mp (List.mem_filter.mp hj).2
    rw [hp, hq, rankLT_iff] at hij
    simpa [Precedes, hp, hq] using hij
  · refine (pairwise_order.filter _).imp_of_mem fun {i j} hi hj hij => ?_
    have hp : cs.priorityAt i = none := by simpa using (List.mem_filter.mp hi).2
    have hq : cs.priorityAt j = none := by simpa using (List.mem_filter.mp hj).2
    rw [hp, hq, rankLT_iff] at hij
    simpa using hij

/-! ## Section 2: What is changed, and whether anything is -/

/-- Columns that restoring leaves alone are those of dense priorities. -/
theorem renumber_eq_self_iff : cs.renumber = cs ↔ cs.Dense := by
  constructor
  · intro h
    rw [← h]
    exact renumber_ranked.dense
  · intro h
    exact h.ranked.renumber_eq

theorem renumberChanges_eq_false : cs.renumberChanges = false ↔
    (∀ c ∈ cs, c.isSorted = false → c.priority = none) ∧
      ∀ r i, cs.order[r]? = some i → cs.priorityAt i = some r := by
  have hunsorted : (cs.any fun c => !c.isSorted && c.priority.isSome) = false ↔
      ∀ c ∈ cs, c.isSorted = false → c.priority = none := by
    simp
  have hsorted : (cs.ranking.zipIdx.any fun r =>
      cs[r.1.2]?.bind (·.priority) != some r.2) = false ↔
      ∀ r i, cs.order[r]? = some i → cs.priorityAt i = some r := by
    simp only [List.any_eq_false, List.mem_zipIdx_iff_getElem?, order, List.getElem?_map,
      Option.map_eq_some_iff, Prod.exists, Prod.forall, bne_iff_ne, ne_eq, not_not]
    constructor
    · intro h r i hex
      obtain ⟨p, j, hr, rfl⟩ := hex
      exact h p j r hr
    · intro h p i r hr
      exact h r i ⟨p, i, hr, rfl⟩
  rw [← hunsorted, ← hsorted, ← Bool.or_eq_false_iff]
  rfl

/-- Columns that have their places in the order for priorities, and no other ones, are ranked. -/
theorem ranked_order_of_places (hunsorted : ∀ c ∈ cs, c.isSorted = false → c.priority = none)
    (hplaces : ∀ r i, cs.order[r]? = some i → cs.priorityAt i = some r) : cs.Ranked cs.order := by
  have hplace : ∀ {i : Nat} {c : Column}, cs[i]? = some c → c.isSorted = true →
      ∃ r, cs.order[r]? = some i ∧ c.priority = some r := by
    intro i c hi hs
    obtain ⟨r, hr⟩ := List.mem_iff_getElem?.mp (mem_order.mpr ⟨c, hi, hs⟩)
    exact ⟨r, hr, by simpa [priorityAt, hi] using hplaces r i hr⟩
  refine ⟨fun c hc => ?_, fun i r => ⟨fun hprio => ?_, hplaces r i⟩⟩
  · obtain ⟨i, hi⟩ := List.mem_iff_getElem?.mp hc
    show c.isSorted = c.priority.isSome
    by_cases hs : c.isSorted = true
    · obtain ⟨r, -, hr⟩ := hplace hi hs
      rw [hs, hr]
      rfl
    · rw [Bool.not_eq_true] at hs
      rw [hs, hunsorted c hc hs]
      rfl
  · -- a column with a priority is sorted, so it has a place in the order, which is its priority
    obtain ⟨c, hi, hr⟩ := Option.bind_eq_some_iff.mp hprio
    have hs : c.isSorted = true := by
      rw [← Bool.not_eq_false]
      intro hs
      rw [hunsorted c (List.mem_of_getElem? hi) hs] at hr
      cases hr
    obtain ⟨r', hr', hprio'⟩ := hplace hi hs
    rw [hr] at hprio'
    rwa [Option.some.inj hprio']

/-- No change is reported exactly where the priorities are dense. -/
theorem renumberChanges_eq_false_iff : cs.renumberChanges = false ↔ cs.Dense := by
  rw [renumberChanges_eq_false]
  constructor
  · rintro ⟨hunsorted, hplaces⟩
    exact (ranked_order_of_places hunsorted hplaces).dense
  · intro h
    refine ⟨fun c hc hs => ?_, fun r i hr => (h.ranked.priorityAt_iff i r).mpr hr⟩
    have hmatch : c.isSorted = c.priority.isSome := h.sorted_iff c hc
    rw [hs] at hmatch
    simpa using hmatch.symm

/-! ## Section 3: What stays -/

theorem keyAt?_renumber (i : Nat) : cs.renumber.keyAt? i = cs.keyAt? i := by
  unfold keyAt?
  rw [getElem?_renumber]
  cases cs[i]? <;> rfl

/-- Where no sorted column is without priority, the keys stay what they are. -/
theorem Numbered.sortKeys_renumber (h : cs.Numbered) : cs.renumber.sortKeys = cs.sortKeys := by
  -- both lists go along the order of before, in which places and keys are the same
  have hkeys : cs.renumber.sortKeys.map some = cs.sortKeys.map some := by
    rw [renumber_ranked.orderedAs.sortKeys_eq, h.sortKeys_eq]
    exact List.map_congr_left fun i _ => keyAt?_renumber i
  exact List.map_injective_iff.mpr (fun _ _ => Option.some.inj) hkeys

/-! ## Section 4: The normal form -/

/-- **Restoring gives every sorted column its place in line.**  The result is dense, shows what
    was shown before, and has the columns with a priority in front, by priority and position,
    and those without one behind them.  A change is reported exactly if there is one, which is
    exactly if the priorities were not dense; so there is nothing to change a second time.
    If all sorted columns had a priority, the keys are the same as before. -/
theorem renumber_restores_line (cs : Columns)
    (hbits : ∀ c ∈ cs, ∀ p, c.priority = some p → p < lastRank) :
    cs.renumber.isDense = true ∧ cs.renumber.shown = cs.shown ∧
      (∃ front back, cs.InLine front back ∧
        (∀ front' back', cs.InLine front' back' → front' = front ∧ back' = back) ∧
        cs.renumber.OrderedAs (front ++ back)) ∧
      (cs.renumberChanges = true ↔ cs.renumber ≠ cs) ∧
      (cs.renumberChanges = true ↔ cs.isDense = false) ∧
      (cs.renumber.renumber = cs.renumber ∧ cs.renumber.renumberChanges = false) ∧
      (cs.Numbered → cs.renumber.sortKeys = cs.sortKeys) := by
  have hdense : cs.renumber.Dense := renumber_ranked.dense
  have hchanges : cs.renumberChanges = true ↔ ¬ cs.Dense := by
    rw [← renumberChanges_eq_false_iff, Bool.not_eq_false]
  refine ⟨isDense_iff.mpr hdense, shown_renumber, ?_, ?_, ?_, ?_, Numbered.sortKeys_renumber⟩
  · obtain ⟨front, back, hline, horder⟩ := exists_inLine hbits
    have hordered : cs.renumber.OrderedAs (front ++ back) := horder ▸ renumber_ranked.orderedAs
    exact ⟨front, back, hline, fun _ _ => hline.unique, hordered⟩
  · rw [hchanges, ← renumber_eq_self_iff]
  · rw [hchanges, ← isDense_iff, Bool.not_eq_true]
  · exact ⟨renumber_eq_self_iff.mpr hdense, renumberChanges_eq_false_iff.mpr hdense⟩

/-- Five columns with a tie, a gap, a priority too many and one too few. -/
def disordered : Columns :=
  [.sorted "name" .ascending 4, .sorted "age" .descending 4,
    { path := "notes", priority := some 7 }, { path := "town", sort := some .descending },
    .sorted "born" .ascending 1]

theorem renumber_restores_line_of_disordered :
    (∀ c ∈ disordered, ∀ p, c.priority = some p → p < lastRank) ∧
      disordered.InLine [4, 0, 1] [3] ∧ disordered.renumber.OrderedAs [4, 0, 1, 3] ∧
      disordered.isDense = false ∧ disordered.renumberChanges = true := by
  have hbits : ∀ c ∈ disordered, ∀ p, c.priority = some p → p < lastRank := by decide
  have hline : disordered.InLine [4, 0, 1] [3] := by
    refine ⟨fun i => ?_, fun i => ?_, ?_, by decide⟩
    · match i with
      | 0 | 1 | 2 | 3 | 4 => decide
      | i + 5 => simp [disordered]
    · match i with
      | 0 | 1 | 2 | 3 | 4 => decide
      | i + 5 => simp [disordered]
    · simp [Precedes, priorityAt, disordered, Column.sorted]
  have hdense : disordered.isDense = false := by
    -- the notes have a priority, but they are not sorted
    rw [Bool.eq_false_iff, Ne, isDense_iff]
    intro h
    exact absurd (h.sorted_iff { path := "notes", priority := some 7 } (by decide)) (by decide)
  obtain ⟨-, -, ⟨front, back, -, hunique, hordered⟩, -, hchanges, -, -⟩ :=
    renumber_restores_line disordered hbits
  obtain ⟨rfl, rfl⟩ := hunique _ _ hline
  exact ⟨hbits, hline, hordered, hdense, hchanges.mpr hdense⟩

end QueryComposer.Columns
