import Mathlib.Data.List.Nodup
import QueryComposer.Query.Sorting

/-! # Dense priorities

    The priorities of a list of columns are dense when exactly the sorted
    columns have one and the priorities of `k` sorted columns are the numbers
    below `k`.  Such numbers are one way to write down a list: the positions
    of the sorted columns, the first key first.

    * `Dense` says what the numbers are.
    * `Ranked cs l` says that the numbers spell the list `l`.
    * `order cs` reads the list off the numbers.

    The three fit together: `cs` is dense iff it is ranked by some list, and
    that list is `order cs`.  Numbers that are not dense are restored along that
    list, which gives each column the count of those before it
    (`PrioritiesMatch.renumber_eq`). -/

namespace QueryComposer.Columns

/-! ## Section 1: What the numbers say -/

/-- The priorities from left to right. -/
def priorities (cs : Columns) : List Nat := cs.filterMap (·.priority)

/-- Exactly the sorted columns have a priority. -/
def PrioritiesMatch (cs : Columns) : Prop := ∀ c ∈ cs, c.sort.isSome = c.priority.isSome

/-- Exactly the sorted columns have a priority, and the priorities of `k` sorted columns
    are the numbers below `k`, each of them once. -/
structure Dense (cs : Columns) : Prop where
  sorted_iff : cs.PrioritiesMatch
  perm : cs.priorities.Perm (List.range cs.sortedCount)

/-- The positions of the sorted columns, by increasing priority. -/
def order (cs : Columns) : List Nat := cs.ranking.map (·.2)

/-- The priority of the column at a position. -/
def priorityAt (cs : Columns) (i : Nat) : Option Nat := cs[i]?.bind (·.priority)

/-- The numbers spell the list `l`: the column at position `i` has priority `r` exactly
    when `i` stands at place `r` of `l`. -/
structure Ranked (cs : Columns) (l : List Nat) : Prop where
  sorted_iff : cs.PrioritiesMatch
  priorityAt_iff : ∀ i r, cs.priorityAt i = some r ↔ l[r]? = some i

variable {cs : Columns} {l : List Nat}

theorem PrioritiesMatch.at_position (h : cs.PrioritiesMatch) {i : Nat} {c : Column}
    (hi : cs[i]? = some c) : c.sort.isSome = c.priority.isSome :=
  h c (List.mem_of_getElem? hi)

theorem length_priorities (h : cs.PrioritiesMatch) : cs.priorities.length = cs.sortedCount := by
  unfold priorities sortedCount
  rw [List.length_filterMap_eq_countP]
  exact List.countP_congr fun c hc => by rw [Column.isSorted, h c hc]

theorem mem_priorities {r : Nat} : r ∈ cs.priorities ↔ ∃ i, cs.priorityAt i = some r := by
  unfold priorities priorityAt
  rw [List.mem_filterMap]
  simp only [Option.bind_eq_some_iff]
  constructor
  · intro ⟨c, hc, hr⟩
    obtain ⟨i, hi⟩ := List.mem_iff_getElem?.mp hc
    exact ⟨i, c, hi, hr⟩
  · intro ⟨i, c, hi, hr⟩
    exact ⟨c, List.mem_of_getElem? hi, hr⟩

/-- A sorted list that has the numbers below `n`, each once, is the list of them. -/
theorem eq_range_of_perm {ns : List Nat} {n : Nat} (hsorted : ns.Pairwise (· ≤ ·))
    (hperm : ns.Perm (List.range n)) : ns = List.range n :=
  hperm.eq_of_pairwise (fun _ _ _ _ => Nat.le_antisymm) hsorted List.pairwise_le_range

/-- Pairs that are numbered from 0 up stand at their numbers. -/
theorem place_of_map_fst_eq_range {α : Type} {ps : List (Nat × α)} {n : Nat}
    (h : ps.map (·.1) = List.range n) {r p : Nat} {a : α} (hr : ps[r]? = some (p, a)) : p = r := by
  have hget : (List.range n)[r]? = some p := by rw [← h, List.getElem?_map, hr]; rfl
  obtain ⟨hlt, hp⟩ := List.getElem?_eq_some_iff.mp hget
  rw [← hp, List.getElem_range]

theorem mem_iff_place_of_map_fst_eq_range {α : Type} {ps : List (Nat × α)} {n : Nat}
    (h : ps.map (·.1) = List.range n) {p : Nat} {a : α} :
    (p, a) ∈ ps ↔ ps[p]? = some (p, a) := by
  refine ⟨fun hmem => ?_, List.mem_of_getElem?⟩
  obtain ⟨r, hr⟩ := List.mem_iff_getElem?.mp hmem
  have hpr := place_of_map_fst_eq_range h hr
  rwa [← hpr] at hr

theorem pairwise_mergeSort_le {α : Type} (f : α → Nat) (xs : List α) :
    (xs.mergeSort fun a b => f a ≤ f b).Pairwise fun a b => f a ≤ f b := by
  have hsorted : (xs.mergeSort fun a b => f a ≤ f b).Pairwise
      fun a b => decide (f a ≤ f b) = true := by
    apply List.pairwise_mergeSort
    · intro a b c hab hbc
      rw [decide_eq_true_eq] at *
      omega
    · intro a b
      rw [Bool.or_eq_true, decide_eq_true_eq, decide_eq_true_eq]
      omega
  simpa using hsorted

/-! ## Section 2: The check of the program -/

theorem isDense_iff : cs.isDense = true ↔ cs.Dense := by
  have hunfold : cs.isDense = (cs.all (fun c => c.sort.isSome == c.priority.isSome)
      && cs.priorities.mergeSort (fun a b => a ≤ b) == List.range cs.priorities.length) := rfl
  have hmatch : (cs.all fun c => c.sort.isSome == c.priority.isSome) = true ↔
      cs.PrioritiesMatch := by
    simp [PrioritiesMatch]
  rw [hunfold, Bool.and_eq_true, hmatch, beq_iff_eq]
  -- the sorted numbers are a range exactly when the numbers are that range in some order
  constructor
  · intro ⟨hm, hsort⟩
    have hperm := (List.mergeSort_perm cs.priorities (fun a b => a ≤ b)).symm
    rw [hsort, length_priorities hm] at hperm
    exact ⟨hm, hperm⟩
  · intro ⟨hm, hperm⟩
    rw [← length_priorities hm] at hperm
    have hsorted := pairwise_mergeSort_le id cs.priorities
    exact ⟨hm, eq_range_of_perm hsorted ((List.mergeSort_perm _ _).trans hperm)⟩

/-! ## Section 3: The order that the numbers write down -/

/-- Of two ranks the one of less priority goes first, and of two with one priority the one
    further to the left. -/
def rankLE (a b : Nat × Nat) : Bool := a.1 < b.1 || (a.1 == b.1 && a.2 ≤ b.2)

theorem rankLE_iff {a b : Nat × Nat} : rankLE a b = true ↔ a.1 < b.1 ∨ a.1 = b.1 ∧ a.2 ≤ b.2 := by
  simp [rankLE]

/-- The sorted columns as pairs of priority and position, from left to right. -/
def ranks (cs : Columns) : List (Nat × Nat) :=
  (cs.zipIdx.filter (·.1.isSorted)).map fun (c, i) => (c.priority.getD lastRank, i)

theorem ranking_eq : cs.ranking = cs.ranks.mergeSort rankLE := rfl

theorem ranking_perm : cs.ranking.Perm cs.ranks := List.mergeSort_perm _ _

theorem mem_ranking {p i : Nat} : (p, i) ∈ cs.ranking ↔
    ∃ c, cs[i]? = some c ∧ c.isSorted ∧ c.priority.getD lastRank = p := by
  rw [ranking_perm.mem_iff, ranks, List.mem_map]
  constructor
  · intro ⟨⟨c, j⟩, hmem, heq⟩
    rw [List.mem_filter, List.mem_zipIdx_iff_getElem?] at hmem
    cases heq
    exact ⟨c, hmem.1, hmem.2, rfl⟩
  · intro hex
    obtain ⟨c, hi, hsorted, rfl⟩ := hex
    refine ⟨(c, i), ?_, rfl⟩
    rw [List.mem_filter, List.mem_zipIdx_iff_getElem?]
    exact ⟨hi, hsorted⟩

theorem ranking_pairwise : cs.ranking.Pairwise fun a b => rankLE a b := by
  rw [ranking_eq]
  apply List.pairwise_mergeSort
  · intro a b c hab hbc
    rw [rankLE_iff] at *
    omega
  · intro a b
    rw [Bool.or_eq_true, rankLE_iff, rankLE_iff]
    omega

theorem mem_order {i : Nat} : i ∈ cs.order ↔ ∃ c, cs[i]? = some c ∧ c.isSorted := by
  unfold order
  constructor
  · intro h
    obtain ⟨⟨p, j⟩, hmem, rfl⟩ := List.mem_map.mp h
    obtain ⟨c, hc, hsorted, -⟩ := mem_ranking.mp hmem
    exact ⟨c, hc, hsorted⟩
  · intro ⟨c, hc, hsorted⟩
    exact List.mem_map.mpr ⟨_, mem_ranking.mpr ⟨c, hc, hsorted, rfl⟩, rfl⟩

/-- No position is ranked twice. -/
theorem nodup_order : cs.order.Nodup := by
  have hperm : cs.order.Perm ((cs.zipIdx.filter (·.1.isSorted)).map (·.2)) := by
    have hranks := cs.ranking_perm.map (·.2)
    rwa [ranks, List.map_map] at hranks
  have hsub : ((cs.zipIdx.filter (·.1.isSorted)).map (·.2)).Sublist (cs.zipIdx.map (·.2)) :=
    List.filter_sublist.map _
  -- the positions of all columns are a range, and the sorted columns take some of them
  rw [List.zipIdx_map_snd] at hsub
  exact hperm.nodup_iff.mpr (hsub.nodup List.nodup_range')

theorem PrioritiesMatch.fst_ranks (h : cs.PrioritiesMatch) : cs.ranks.map (·.1) = cs.priorities := by
  -- once the positions are forgotten, both sides run over the sorted columns
  have hfilter : (cs.zipIdx.filter (·.1.isSorted)).map (·.1) = cs.filter Column.isSorted := by
    rw [← List.zipIdx_map_fst 0 cs, List.filter_map, List.zipIdx_map_fst]
    rfl
  have hfst : cs.ranks.map (·.1) =
      (cs.filter Column.isSorted).map (·.priority.getD lastRank) := by
    rw [ranks, List.map_map, ← hfilter, List.map_map]
    rfl
  rw [hfst, priorities, ← List.filterMap_eq_map, ← List.filterMap_eq_filter, List.filterMap_filterMap]
  refine List.filterMap_congr fun c hc => ?_
  have hmatch := h c hc
  cases hp : c.priority <;> simp_all [Column.isSorted, Option.guard]

/-- The priorities of dense columns, in order, are the numbers from 0 up. -/
theorem Dense.fst_ranking (h : cs.Dense) : cs.ranking.map (·.1) = List.range cs.sortedCount := by
  have hsorted : (cs.ranking.map (·.1)).Pairwise (· ≤ ·) := by
    rw [List.pairwise_map]
    refine ranking_pairwise.imp fun hab => ?_
    have hle := rankLE_iff.mp hab
    omega
  have hperm := cs.ranking_perm.map (·.1)
  rw [h.sorted_iff.fst_ranks] at hperm
  exact eq_range_of_perm hsorted (hperm.trans h.perm)

/-- Dense priorities spell the order. -/
theorem Dense.ranked (h : cs.Dense) : cs.Ranked cs.order := by
  refine ⟨h.sorted_iff, fun i r => ?_⟩
  have hpriority : cs.priorityAt i = some r ↔ (r, i) ∈ cs.ranking := by
    rw [mem_ranking, priorityAt, Option.bind_eq_some_iff]
    refine exists_congr fun c => and_congr_right fun hi => ?_
    have hmatch := h.sorted_iff.at_position hi
    cases hc : c.priority <;> simp_all [Column.isSorted]
  rw [hpriority, mem_iff_place_of_map_fst_eq_range h.fst_ranking, order, List.getElem?_map,
    Option.map_eq_some_iff]
  constructor
  · intro hr
    exact ⟨(r, i), hr, rfl⟩
  · intro hex
    obtain ⟨⟨p, j⟩, hr, rfl⟩ := hex
    have hpr : p = r := place_of_map_fst_eq_range h.fst_ranking hr
    rw [hr, hpr]

namespace Ranked

/-- A column has one priority, so no position stands in the list twice. -/
theorem nodup (h : cs.Ranked l) : l.Nodup := by
  rw [List.nodup_iff_getElem?_ne_getElem?]
  intro r r' hlt hlen heq
  obtain ⟨i, hi⟩ : ∃ i, l[r']? = some i := ⟨_, List.getElem?_eq_getElem hlen⟩
  have hr' := (h.priorityAt_iff i r').mpr hi
  have hr := (h.priorityAt_iff i r).mpr (heq.trans hi)
  rw [hr, Option.some.injEq] at hr'
  omega

theorem perm_range (h : cs.Ranked l) : cs.priorities.Perm (List.range l.length) := by
  have hnodup : cs.priorities.Nodup := by
    rw [priorities, List.Nodup, List.pairwise_filterMap, List.pairwise_iff_getElem]
    intro i j hi hj hlt p hp p' hp' heq
    -- two columns of one priority stand at one position
    have hpi := (h.priorityAt_iff i p).mp (by simp [priorityAt, hi, hp])
    have hpj := (h.priorityAt_iff j p').mp (by simp [priorityAt, hj, hp'])
    rw [heq, hpj] at hpi
    simp only [Option.some.injEq] at hpi
    omega
  refine (List.perm_ext_iff_of_nodup hnodup List.nodup_range).mpr fun r => ?_
  rw [mem_priorities, List.mem_range]
  simp only [h.priorityAt_iff]
  constructor
  · intro ⟨i, hi⟩
    exact (List.getElem?_eq_some_iff.mp hi).1
  · intro hr
    exact ⟨_, List.getElem?_eq_getElem hr⟩

theorem dense (h : cs.Ranked l) : cs.Dense := by
  have hlen := h.perm_range.length_eq
  rw [length_priorities h.sorted_iff, List.length_range] at hlen
  exact ⟨h.sorted_iff, hlen ▸ h.perm_range⟩

/-- The numbers spell one list only. -/
theorem order_eq (h : cs.Ranked l) : cs.order = l := by
  refine List.ext_getElem? fun r => Option.ext fun i => ?_
  exact (h.dense.ranked.priorityAt_iff i r).symm.trans (h.priorityAt_iff i r)

end Ranked

/-! ## Section 4: The keys of the order -/

/-- The key that the column at a position stands for, if it is sorted. -/
def keyAt? (cs : Columns) (i : Nat) : Option SortKey := do
  let c ← cs[i]?
  let direction ← c.sort
  return { path := c.path, direction }

/-- Every sorted column has a priority. -/
def Numbered (cs : Columns) : Prop := ∀ c ∈ cs, c.isSorted = true → c.priority.isSome = true

theorem PrioritiesMatch.numbered (h : cs.PrioritiesMatch) : cs.Numbered := by
  intro c hc hsorted
  rw [← h c hc]
  exact hsorted

/-- Sorting by the numbers alone keeps those of one number in the order of their positions, if
    they were given in this order. -/
theorem pairwise_rankLE_mergeSort {ps : List (Nat × Nat)} (h : ps.Pairwise fun a b => a.2 < b.2) :
    (ps.mergeSort fun a b => a.1 ≤ b.1).Pairwise fun a b => rankLE a b := by
  induction ps with
  | nil => simp
  | cons a ps ih =>
    obtain ⟨hfirst, hrest⟩ := List.pairwise_cons.mp h
    have htrans : ∀ a b c : Nat × Nat, decide (a.1 ≤ b.1) = true → decide (b.1 ≤ c.1) = true →
        decide (a.1 ≤ c.1) = true := by
      simp only [decide_eq_true_eq]
      omega
    have htotal : ∀ a b : Nat × Nat, (decide (a.1 ≤ b.1) || decide (b.1 ≤ a.1)) = true := by
      simp only [Bool.or_eq_true, decide_eq_true_eq]
      omega
    -- the first element goes behind the smaller numbers, and before all others of its number
    obtain ⟨before, after, hsort, hsplit, hbefore⟩ := List.mergeSort_cons htrans htotal a ps
    have hsorted := pairwise_mergeSort_le Prod.fst (a :: ps)
    have hold := ih hrest
    rw [hsort, List.pairwise_append, List.pairwise_cons] at hsorted
    rw [hsplit, List.pairwise_append] at hold
    rw [hsort, List.pairwise_append, List.pairwise_cons]
    refine ⟨hold.1, ⟨?_, hold.2.1⟩, ?_⟩
    · intro b hb
      have hle : a.1 ≤ b.1 := hsorted.2.1.1 b hb
      have hmem : b ∈ ps.mergeSort fun a b => a.1 ≤ b.1 := hsplit ▸ List.mem_append_right before hb
      have hlt : a.2 < b.2 := hfirst b (List.mem_mergeSort.mp hmem)
      rw [rankLE_iff]
      omega
    · intro b hb c hc
      rcases List.mem_cons.mp hc with rfl | hc
      · have hlt := hbefore b hb
        simp at hlt
        rw [rankLE_iff]
        omega
      · exact hold.2.2 b hb c hc

theorem ranks_eq_filterMap : cs.ranks = cs.zipIdx.filterMap fun x =>
    if x.1.isSorted then some (x.1.priority.getD lastRank, x.2) else none := by
  rw [ranks, ← List.filterMap_eq_filter, List.map_filterMap]
  refine List.filterMap_congr fun x _ => ?_
  cases hs : x.1.isSorted <;> simp [Option.guard, hs]

/-- Positions increase from left to right. -/
theorem pairwise_ranks : cs.ranks.Pairwise fun a b => a.2 < b.2 := by
  have hpositions : cs.zipIdx.Pairwise fun a b => a.2 < b.2 := by
    rw [← List.pairwise_map (f := Prod.snd), List.zipIdx_map_snd]
    exact List.pairwise_lt_range'
  rw [ranks, List.pairwise_map]
  exact hpositions.filter _

/-- The ranking is the one that a stable sort by the numbers leads to. -/
theorem ranking_eq_mergeSort_fst : cs.ranking = cs.ranks.mergeSort fun a b => a.1 ≤ b.1 := by
  have hperm : cs.ranking.Perm (cs.ranks.mergeSort fun a b => a.1 ≤ b.1) :=
    ranking_perm.trans (List.mergeSort_perm _ _).symm
  refine hperm.eq_of_pairwise ?_ ranking_pairwise (pairwise_rankLE_mergeSort pairwise_ranks)
  intro a b _ _ hab hba
  rw [rankLE_iff] at hab hba
  exact Prod.ext (by omega) (by omega)

/-- What stands beside the numbers plays no part in sorting by them. -/
theorem map_mergeSort_fst {α β : Type} (f : α → β) (xs : List (Nat × α)) :
    (xs.mergeSort fun a b => a.1 ≤ b.1).map (Prod.map id f) =
      (xs.map (Prod.map id f)).mergeSort fun a b => a.1 ≤ b.1 :=
  List.map_mergeSort fun _ _ _ _ => rfl

theorem Numbered.rankedKeys_eq (h : cs.Numbered) :
    (cs.filterMap rankedKey?).map (Prod.map id some) = cs.ranks.map (Prod.map id cs.keyAt?) := by
  have hzip : cs.filterMap rankedKey? = cs.zipIdx.filterMap fun x => rankedKey? x.1 := by
    conv_lhs => rw [← List.zipIdx_map_fst 0 cs, List.filterMap_map]
    rfl
  rw [hzip, ranks_eq_filterMap, List.map_filterMap, List.map_filterMap]
  refine List.filterMap_congr fun x hx => ?_
  have hget : cs[x.2]? = some x.1 := List.mem_zipIdx_iff_getElem?.mp hx
  have hnumbered := h x.1 (List.mem_of_getElem? hget)
  cases hs : x.1.sort with
  | none => simp [rankedKey?, Column.isSorted, hs]
  | some d =>
    obtain ⟨p, hp⟩ := Option.isSome_iff_exists.mp (hnumbered (by simp [Column.isSorted, hs]))
    simp [rankedKey?, Column.isSorted, keyAt?, hs, hp, hget]

/-- The keys are the columns at the positions of the order, one by one. -/
theorem Numbered.sortKeys_eq (h : cs.Numbered) : cs.sortKeys.map some = cs.order.map cs.keyAt? :=
  calc cs.sortKeys.map some
      = (((cs.filterMap rankedKey?).mergeSort fun a b => a.1 ≤ b.1).map
          (Prod.map id some)).map (·.2) := by
        rw [sortKeys, List.map_map, List.map_map]
        rfl
    _ = ((cs.ranks.mergeSort fun a b => a.1 ≤ b.1).map (Prod.map id cs.keyAt?)).map (·.2) := by
        rw [map_mergeSort_fst, map_mergeSort_fst, h.rankedKeys_eq]
    _ = cs.order.map cs.keyAt? := by
        rw [← ranking_eq_mergeSort_fst, order, List.map_map, List.map_map]
        rfl

/-! ## Section 5: Restoring the numbers -/

theorem getElem?_renumber {i : Nat} : cs.renumber[i]? = cs[i]?.map fun c =>
    { c with priority := if c.isSorted then some (cs.order.idxOf i) else none } :=
  List.getElem?_mapIdx

/-- Restoring numbers the columns along their order. -/
theorem renumber_ranked : cs.renumber.Ranked cs.order := by
  constructor
  · intro c hc
    obtain ⟨i, hi⟩ := List.mem_iff_getElem?.mp hc
    rw [getElem?_renumber] at hi
    obtain ⟨c', -, rfl⟩ := Option.map_eq_some_iff.mp hi
    cases hs : c'.sort <;> simp [Column.isSorted, hs]
  · intro i r
    -- no position is ranked twice, so its first place is its only one
    have hplace : cs.order[r]? = some i ↔ i ∈ cs.order ∧ cs.order.idxOf i = r := by
      constructor
      · intro hr
        obtain ⟨hlt, rfl⟩ := List.getElem?_eq_some_iff.mp hr
        exact ⟨List.getElem_mem hlt, nodup_order.idxOf_getElem r hlt⟩
      · intro hex
        obtain ⟨hmem, rfl⟩ := hex
        exact List.getElem?_idxOf hmem
    rw [hplace, mem_order, priorityAt, getElem?_renumber]
    cases hi : cs[i]? with
    | none => simp
    | some c => cases hs : c.isSorted <;> simp [hs]

/-- Columns that are ranked already keep their numbers. -/
theorem Ranked.renumber_eq (h : cs.Ranked l) : cs.renumber = cs := by
  refine List.ext_getElem? fun i => ?_
  rw [getElem?_renumber]
  cases hi : cs[i]? with
  | none => rfl
  | some c =>
    have hmatch : c.isSorted = c.priority.isSome := h.sorted_iff.at_position hi
    have hkeep : (if c.isSorted then some (cs.order.idxOf i) else none) = c.priority := by
      cases hp : c.priority with
      | none => simp [hmatch, hp]
      | some r =>
        have hr := (h.priorityAt_iff i r).mp (by simp [priorityAt, hi, hp])
        obtain ⟨hlt, rfl⟩ := List.getElem?_eq_some_iff.mp hr
        simp [hmatch, hp, h.order_eq, h.nodup.idxOf_getElem r hlt]
    rw [Option.map_some, hkeep]

/-! ## Section 6: The numbers restored, by counting -/

/-- One rank goes before another one. -/
def rankLT (a b : Nat × Nat) : Bool := a.1 < b.1 || (a.1 == b.1 && a.2 < b.2)

theorem rankLT_iff {a b : Nat × Nat} : rankLT a b = true ↔ a.1 < b.1 ∨ a.1 = b.1 ∧ a.2 < b.2 := by
  simp [rankLT]

theorem rankLT_asymm {a b : Nat × Nat} (h : rankLT a b = true) : rankLT b a = false := by
  rw [rankLT_iff] at h
  rw [Bool.eq_false_iff, Ne, rankLT_iff]
  omega

theorem ranking_pairwise_lt : cs.ranking.Pairwise fun a b => rankLT a b := by
  -- two columns may have one number, but never one position
  have hne : cs.ranking.Pairwise fun a b => a.2 ≠ b.2 := List.pairwise_map.mp cs.nodup_order
  refine (ranking_pairwise.and hne).imp ?_
  intro a b hab
  have hle := rankLE_iff.mp hab.1
  have hneq := hab.2
  rw [rankLT_iff]
  omega

/-- In an increasing list an element stands behind as many as are smaller. -/
theorem countP_lt_eq_place {ps : List (Nat × Nat)} (h : ps.Pairwise fun a b => rankLT a b)
    {r : Nat} {x : Nat × Nat} (hr : ps[r]? = some x) : ps.countP (rankLT · x) = r := by
  induction ps generalizing r with
  | nil => cases hr
  | cons a ps ih =>
    obtain ⟨hfirst, hrest⟩ := List.pairwise_cons.mp h
    rw [List.countP_cons]
    cases r with
    | zero =>
      cases hr
      -- all others go behind the first, and it does not go before itself
      have hself : rankLT x x = false := by simp [rankLT]
      have hnone : ps.countP (rankLT · x) = 0 := by
        rw [List.countP_eq_zero]
        intro b hb
        simp [rankLT_asymm (hfirst b hb)]
      rw [hnone, hself]
      rfl
    | succ r =>
      have hr : ps[r]? = some x := hr
      have hbefore : rankLT a x = true := hfirst x (List.mem_of_getElem? hr)
      rw [ih hrest hr, if_pos hbefore]

/-- How many of the numbered columns go before number `p` at position `i`: those of a smaller
    number, and those of the same number further to the left. -/
def countBefore (cs : Columns) (p i : Nat) : Nat :=
  cs.zipIdx.countP fun (c, j) => c.priority.any fun m => rankLT (m, j) (p, i)

theorem PrioritiesMatch.countBefore_eq (h : cs.PrioritiesMatch) (p i : Nat) :
    cs.countBefore p i = cs.ranking.countP (rankLT · (p, i)) := by
  rw [ranking_perm.countP_eq, ranks, List.countP_map, List.countP_filter]
  refine List.countP_congr fun x hx => ?_
  have hc : x.1 ∈ cs := List.mem_of_getElem? (List.mem_zipIdx_iff_getElem?.mp hx)
  have hmatch := h x.1 hc
  cases hp : x.1.priority <;> simp_all [Column.isSorted]

/-- Where exactly the sorted columns have numbers, restoring gives each column the count of
    those before it. -/
theorem PrioritiesMatch.renumber_eq (h : cs.PrioritiesMatch) :
    cs.renumber = cs.mapIdx fun i c => { c with priority := c.priority.map (cs.countBefore · i) } := by
  refine List.ext_getElem? fun i => ?_
  rw [getElem?_renumber, List.getElem?_mapIdx]
  cases hi : cs[i]? with
  | none => rfl
  | some c =>
    have hmatch := h.at_position hi
    cases hp : c.priority with
    | none => simp_all [Column.isSorted]
    | some p =>
      have hsorted : c.isSorted = true := by simp [Column.isSorted, hmatch, hp]
      have hmem : (p, i) ∈ cs.ranking := mem_ranking.mpr ⟨c, hi, hsorted, by rw [hp]; rfl⟩
      obtain ⟨r, hr⟩ := List.mem_iff_getElem?.mp hmem
      -- the place of the position in the order is that of its rank in the ranking
      have horder : cs.order[r]? = some i := by rw [order, List.getElem?_map, hr]; rfl
      obtain ⟨hlt, hget⟩ := List.getElem?_eq_some_iff.mp horder
      have hplace : cs.order.idxOf i = r := by rw [← hget, nodup_order.idxOf_getElem r hlt]
      have hcount : cs.countBefore p i = r := by
        rw [h.countBefore_eq, countP_lt_eq_place ranking_pairwise_lt hr]
      simp [hsorted, hplace, hcount, hp]

end QueryComposer.Columns
