import Mathlib.Data.List.InsertIdx
import QueryComposer.Proofs.Outcome
import QueryComposer.Proofs.Sorting.Dense

/-! # The column touched last decides

    Every change of the sorts is a change of the order: the touched column
    goes to the front, or out of the order if it ends up unsorted.  The
    program does this by arithmetic on the numbers (it closes the gap that a
    column leaves, pushes the others back by one and overwrites one entry);
    here the arithmetic is shown to be list surgery on the order.

    * `shown` is what a change may not touch elsewhere: paths and sorts.
    * `reorder` is the surgery.
    * `Ranked.toggleSort`, `Ranked.sortTo`, `Ranked.remove` and `Ranked.add`
      say that each change of the columns performs it. -/

namespace QueryComposer.Columns

open Outcome

variable {cs cs' : Columns} {l : List Nat} {i : Nat} {c : Column}

/-! ## Section 1: What one change does at each position -/

/-- The paths and the sorts, which people see. -/
def shown (cs : Columns) : List (String × Option Direction) := cs.map fun c => (c.path, c.sort)

/-- The priority `q` of a column after another one has given up the priority `p`. -/
def released (p : Option Nat) (q : Nat) : Nat :=
  match p with
  | some p => if p < q then q - 1 else q
  | none => q

theorem get_eq_ok : cs.get i = .ok c ↔ cs[i]? = some c := by
  unfold get
  cases cs[i]? <;> simp

/-- The columns after the sort of the column `c`, which stands at position `i`, has been
    taken one step further: of the others only the priorities change. -/
def toggled (cs : Columns) (i : Nat) (c : Column) : Columns :=
  (cs.map fun d =>
    { d with priority := d.priority.map fun q =>
        released (if c.sort.isSome then c.priority else none) q
          + (if (Direction.next c.sort).isSome then 1 else 0) }).set i
    { c with sort := Direction.next c.sort, priority := (Direction.next c.sort).map fun _ => 0 }

theorem toggleSort_eq_ok : cs.toggleSort i = .ok cs' ↔ ∃ c, cs[i]? = some c ∧
    cs' = cs.toggled i c := by
  unfold toggleSort toggled
  rw [bind_eq_ok]
  refine exists_congr fun c => ?_
  rw [get_eq_ok]
  refine and_congr_right fun _ => ?_
  -- only a sorted column leaves a gap, and only one sorted afterwards pushes the others back
  cases hs : c.sort with
  | none =>
    simp [Direction.next, released, pushBack, eq_comm]
  | some d =>
    cases hp : c.priority <;> cases d <;>
      simp [Direction.next, released, pushBack, closeGap, Function.comp_def, eq_comm]

theorem eq_of_toggleSort (h : cs.toggleSort i = .ok cs') (hi : cs[i]? = some c) :
    cs' = cs.toggled i c := by
  obtain ⟨c', hi', heq⟩ := toggleSort_eq_ok.mp h
  rwa [Option.some.inj (hi'.symm.trans hi)] at heq

theorem shown_toggleSort (h : cs.toggleSort i = .ok cs') (hi : cs[i]? = some c) :
    cs'.shown = cs.shown.set i (c.path, Direction.next c.sort) := by
  rw [eq_of_toggleSort h hi]
  simp [shown, toggled, List.map_set, Function.comp_def]

theorem shown_renumber : cs.renumber.shown = cs.shown := by
  refine List.ext_getElem? fun i => ?_
  simp only [shown, List.getElem?_map, getElem?_renumber]
  cases cs[i]? <;> rfl

theorem length_of_shown_eq {xs : List (String × Option Direction)} (h : cs.shown = xs) :
    cs.length = xs.length := by
  rw [← h, shown, List.length_map]

/-- What toggling does to the priority at each position. -/
theorem priorityAt_toggleSort (h : cs.toggleSort i = .ok cs') (hi : cs[i]? = some c) (j : Nat) :
    cs'.priorityAt j = if j = i then (Direction.next c.sort).map fun _ => 0
      else (cs.priorityAt j).map fun q =>
        released (if c.sort.isSome then c.priority else none) q
          + (if (Direction.next c.sort).isSome then 1 else 0) := by
  have hlt : i < cs.length := (List.getElem?_eq_some_iff.mp hi).1
  rw [eq_of_toggleSort h hi]
  unfold priorityAt toggled
  by_cases hj : j = i
  · subst hj
    simp [hlt]
  · have hij : i ≠ j := fun h => hj h.symm
    rw [List.getElem?_set_ne hij, List.getElem?_map, if_neg hj]
    cases cs[j]? <;> simp

/-! ## Section 2: Surgery on the order -/

/-- The order after position `i` has been given the sort `t`. -/
def reorder (i : Nat) (t : Option Direction) (l : List Nat) : List Nat :=
  match t with
  | some _ => i :: l.erase i
  | none => l.erase i

theorem reorder_reorder (hl : l.Nodup) (t t' : Option Direction) :
    reorder i t (reorder i t' l) = reorder i t l := by
  have herase : (l.erase i).erase i = l.erase i :=
    List.erase_of_not_mem hl.not_mem_erase
  cases t <;> cases t' <;> simp [reorder, herase]

/-- Taking the entry at place `p` out moves the later ones forward by one place. -/
theorem getElem?_erase_iff (hl : l.Nodup) {p r j : Nat} (hp : l[p]? = some i) :
    (l.erase i)[r]? = some j ↔ ∃ q, l[q]? = some j ∧ j ≠ i ∧ released (some p) q = r := by
  obtain ⟨hlt, hget⟩ := List.getElem?_eq_some_iff.mp hp
  have hidx : l.idxOf i = p := by rw [← hget]; exact hl.idxOf_getElem p hlt
  -- `i` stands at place `p` and at no other
  have hplace : ∀ q, l[q]? = some i → q = p := by
    intro q hq
    obtain ⟨hq', hget'⟩ := List.getElem?_eq_some_iff.mp hq
    rw [← hidx, ← hget', hl.idxOf_getElem q hq']
  rw [List.erase_eq_eraseIdx_of_idxOf hidx, List.getElem?_eraseIdx]
  unfold released
  constructor
  · intro h
    split at h
    next hr =>
      refine ⟨r, h, ?_, by simp; omega⟩
      intro heq
      subst heq
      exact absurd (hplace r h) (by omega)
    next hr =>
      refine ⟨r + 1, h, ?_, by simp; omega⟩
      intro heq
      subst heq
      exact absurd (hplace (r + 1) h) (by omega)
  · intro hex
    obtain ⟨q, hq, hne, rfl⟩ := hex
    have hqp : q ≠ p := by
      intro heq
      subst heq
      exact hne (Option.some.inj (hq.symm.trans hp))
    simp only
    split
    next hpq =>
      have hback : q - 1 + 1 = q := by omega
      rw [if_neg (by omega), hback, hq]
    next hpq =>
      rw [if_pos (by omega), hq]

namespace Ranked

/-- Once a column has given up its priority, the others have the places that they have in
    the order without it. -/
theorem released_iff (h : cs.Ranked l) (i : Nat) {j r : Nat} :
    j ≠ i ∧ (cs.priorityAt j).map (released (cs.priorityAt i)) = some r ↔
      (l.erase i)[r]? = some j := by
  cases hi : cs.priorityAt i with
  | none =>
    -- a column without priority is not in the list, so nothing moves
    have hnot : i ∉ l := by
      intro hmem
      obtain ⟨p, hp⟩ := List.mem_iff_getElem?.mp hmem
      rw [← h.priorityAt_iff, hi] at hp
      cases hp
    rw [List.erase_of_not_mem hnot, ← h.priorityAt_iff]
    have hid : released none = id := rfl
    rw [hid, Option.map_id, id_eq]
    refine and_iff_right_of_imp fun hj hji => ?_
    rw [hji, hi] at hj
    cases hj
  | some p =>
    rw [getElem?_erase_iff h.nodup ((h.priorityAt_iff i p).mp hi), Option.map_eq_some_iff]
    simp only [h.priorityAt_iff]
    constructor
    · intro ⟨hne, q, hq, hr⟩
      exact ⟨q, hq, hne, hr⟩
    · intro ⟨q, hq, hne, hr⟩
      exact ⟨hne, q, hq, hr⟩

/-- **Toggling is surgery**: the touched column moves to the front of the order, or out of it. -/
theorem toggleSort (h : cs.Ranked l) (hi : cs[i]? = some c) (ht : cs.toggleSort i = .ok cs') :
    cs'.Ranked (reorder i (Direction.next c.sort) l) := by
  constructor
  · rw [eq_of_toggleSort ht hi]
    intro d hd
    rcases List.mem_or_eq_of_mem_set hd with hd | rfl
    · obtain ⟨d', hd', rfl⟩ := List.mem_map.mp hd
      simpa using h.sorted_iff d' hd'
    · simp
  · intro j r
    have hprio : (if c.sort.isSome then c.priority else none) = cs.priorityAt i := by
      have := h.sorted_iff.at_position hi
      cases hp : c.priority <;> simp_all [priorityAt]
    rw [priorityAt_toggleSort ht hi, hprio]
    cases hnext : Direction.next c.sort with
    | none =>
      rw [reorder, ← h.released_iff i]
      by_cases hj : j = i <;> simp [hj]
    | some d =>
      -- place 0 goes to the touched column, and each other place is one further back
      cases r with
      | zero =>
        by_cases hj : j = i
        · simp [reorder, hj]
        · have hij : ¬ i = j := fun h => hj h.symm
          simp [reorder, hj, hij, Option.map_eq_some_iff]
      | succ r =>
        rw [reorder, List.getElem?_cons_succ, ← h.released_iff i]
        by_cases hj : j = i <;> simp [hj]

end Ranked

/-! ## Section 3: Reaching a sort -/

theorem sortWithin_succ (n : Nat) (t : Option Direction) :
    cs.sortWithin (n + 1) i t = cs.get i >>= fun c =>
      if c.sort = t then .ok cs else cs.toggleSort i >>= fun cs' => cs'.sortWithin n i t := rfl

theorem getElem?_toggleSort_self (h : cs.toggleSort i = .ok cs') (hi : cs[i]? = some c) :
    ∃ c', cs'[i]? = some c' ∧ c'.path = c.path ∧ c'.sort = Direction.next c.sort := by
  have hlt : i < cs.length := (List.getElem?_eq_some_iff.mp hi).1
  rw [eq_of_toggleSort h hi]
  exact ⟨_, List.getElem?_set_self (by simpa using hlt), rfl, rfl⟩

/-- Reaching a sort takes no toggle, or one, or two. -/
theorem sortTo_eq_ok {t : Option Direction} : cs.sortTo i t = .ok cs' ↔ ∃ c, cs[i]? = some c ∧
    if c.sort = t then cs' = cs
    else if Direction.next c.sort = t then cs.toggleSort i = .ok cs'
    else ∃ cs₁, cs.toggleSort i = .ok cs₁ ∧ cs₁.toggleSort i = .ok cs' := by
  rw [sortTo, sortWithin_succ, bind_eq_ok]
  refine exists_congr fun c => ?_
  rw [get_eq_ok]
  refine and_congr_right fun hi => ?_
  by_cases hc : c.sort = t
  · simp [hc, eq_comm]
  · rw [if_neg hc, if_neg hc, bind_eq_ok]
    -- after one toggle the column has the next sort, and one more step may be taken
    have hrest : ∀ cs₁, cs.toggleSort i = .ok cs₁ → cs₁.sortWithin 1 i t =
        if Direction.next c.sort = t then .ok cs₁ else cs₁.toggleSort i := by
      intro cs₁ h₁
      obtain ⟨c₁, hi₁, -, hs₁⟩ := getElem?_toggleSort_self h₁ hi
      rw [sortWithin_succ, get_eq_ok.mpr hi₁, ok_bind, hs₁]
      congr 1
      cases cs₁.toggleSort i <;> rfl
    split
    next hn =>
      constructor
      · intro ⟨cs₁, h₁, h⟩
        rw [hrest cs₁ h₁, if_pos hn] at h
        cases h
        exact h₁
      · intro h
        exact ⟨cs', h, by rw [hrest cs' h, if_pos hn]⟩
    next hn =>
      refine exists_congr fun cs₁ => and_congr_right fun h₁ => ?_
      rw [hrest cs₁ h₁, if_neg hn]

/-- Of the three sorts, the one that is neither `s` nor next to it comes after the next. -/
theorem next_next_eq {s t : Option Direction} (h : s ≠ t) (h' : Direction.next s ≠ t) :
    Direction.next (Direction.next s) = t := by
  match s, t with
  | none, none | some .ascending, some .ascending | some .descending, some .descending =>
    exact absurd rfl h
  | none, some .ascending | some .ascending, some .descending | some .descending, none =>
    exact absurd rfl h'
  | none, some .descending | some .ascending, none | some .descending, some .ascending => rfl

theorem cases_of_sortTo {t : Option Direction} (h : cs.sortTo i t = .ok cs')
    (hi : cs[i]? = some c) :
    if c.sort = t then cs' = cs
    else if Direction.next c.sort = t then cs.toggleSort i = .ok cs'
    else ∃ cs₁, cs.toggleSort i = .ok cs₁ ∧ cs₁.toggleSort i = .ok cs' := by
  obtain ⟨c', hi', hcases⟩ := sortTo_eq_ok.mp h
  rwa [Option.some.inj (hi'.symm.trans hi)] at hcases

theorem shown_sortTo {t : Option Direction} (h : cs.sortTo i t = .ok cs') (hi : cs[i]? = some c) :
    cs'.shown = cs.shown.set i (c.path, t) := by
  have hcases := cases_of_sortTo h hi
  split at hcases
  next hc =>
    -- the entry that is written is the one that was there
    have hself : cs.shown[i]? = some (c.path, t) := by simp [shown, hi, hc]
    obtain ⟨hlt, hget⟩ := List.getElem?_eq_some_iff.mp hself
    rw [hcases, ← hget, List.set_getElem_self]
  next hc =>
    split at hcases
    next hn => rw [shown_toggleSort hcases hi, hn]
    next hn =>
      obtain ⟨cs₁, h₁, h₂⟩ := hcases
      obtain ⟨c₁, hi₁, hpath, hsort⟩ := getElem?_toggleSort_self h₁ hi
      rw [shown_toggleSort h₂ hi₁, shown_toggleSort h₁ hi, List.set_set, hpath, hsort,
        next_next_eq hc hn]

/-- **Reaching a sort is surgery**, and nothing at all where the sort is there already. -/
theorem Ranked.sortTo {t : Option Direction} (h : cs.Ranked l) (hi : cs[i]? = some c)
    (ht : cs.sortTo i t = .ok cs') :
    if c.sort = t then cs' = cs else cs'.Ranked (reorder i t l) := by
  have hcases := cases_of_sortTo ht hi
  split at hcases
  next hc =>
    rw [if_pos hc]
    exact hcases
  next hc =>
    rw [if_neg hc]
    split at hcases
    next hn => exact hn ▸ h.toggleSort hi hcases
    next hn =>
      -- the second toggle finds the column in front and puts it where the sort wants it
      obtain ⟨cs₁, h₁, h₂⟩ := hcases
      obtain ⟨c₁, hi₁, -, hsort⟩ := getElem?_toggleSort_self h₁ hi
      have h₂' := (h.toggleSort hi h₁).toggleSort hi₁ h₂
      rwa [hsort, next_next_eq hc hn, reorder_reorder h.nodup] at h₂'

/-! ## Section 4: Adding and removing columns -/

/-- The position of a column after the one at `i` has been removed. -/
def lowered (i j : Nat) : Nat := if i < j then j - 1 else j

/-- The position at which a column stood before the one at `i` was removed. -/
def raised (i j : Nat) : Nat := if j < i then j else j + 1

theorem raised_ne (i j : Nat) : raised i j ≠ i := by
  unfold raised
  split <;> omega

theorem lowered_eq_iff {j k : Nat} (hk : k ≠ i) : lowered i k = j ↔ k = raised i j := by
  unfold lowered raised
  split <;> split <;> omega

theorem getElem?_eraseIdx_eq {α : Type} (xs : List α) (i j : Nat) :
    (xs.eraseIdx i)[j]? = xs[raised i j]? := by
  rw [List.getElem?_eraseIdx, raised]
  split <;> rfl

theorem remove_eq_ok : cs.remove i = .ok cs' ↔ ∃ c, cs[i]? = some c ∧
    cs' = (cs.map fun d => { d with priority := d.priority.map (released c.priority) }).eraseIdx i := by
  unfold remove
  rw [bind_eq_ok]
  refine exists_congr fun c => ?_
  rw [get_eq_ok]
  refine and_congr_right fun _ => ?_
  cases hp : c.priority with
  | none =>
    have hid : released none = id := rfl
    simp [hid, eq_comm]
  | some p =>
    have hclose : released (some p) = fun q => if p < q then q - 1 else q := rfl
    simp [hclose, closeGap, eq_comm]

theorem shown_remove (h : cs.remove i = .ok cs') : cs'.shown = cs.shown.eraseIdx i := by
  obtain ⟨c, -, rfl⟩ := remove_eq_ok.mp h
  simp [shown, List.eraseIdx_map, Function.comp_def]

/-- What removal does to the priority at each position. -/
theorem priorityAt_remove (h : cs.remove i = .ok cs') (j : Nat) : cs'.priorityAt j =
    (cs.priorityAt (raised i j)).map (released (cs.priorityAt i)) := by
  obtain ⟨c, hi, rfl⟩ := remove_eq_ok.mp h
  have hprio : cs.priorityAt i = c.priority := by simp [priorityAt, hi]
  rw [hprio, priorityAt, priorityAt, getElem?_eraseIdx_eq, List.getElem?_map]
  cases cs[raised i j]? <;> rfl

theorem shown_add (path : String) : (cs.add path).shown = cs.shown ++ [(path, none)] := by
  simp [shown, add]

theorem Ranked.add (h : cs.Ranked l) (path : String) : (cs.add path).Ranked l := by
  constructor
  · intro d hd
    rcases List.mem_append.mp hd with hd | hd
    · exact h.sorted_iff d hd
    · rw [List.mem_singleton.mp hd]
      rfl
  · intro j r
    rw [← h.priorityAt_iff, priorityAt, priorityAt, Columns.add, List.getElem?_append]
    split
    · rfl
    next hj =>
      rw [List.getElem?_eq_none (Nat.le_of_not_lt hj)]
      cases j - cs.length <;> simp

/-- **Removal is surgery**: the column leaves the order, and the positions beyond it move down. -/
theorem Ranked.remove (h : cs.Ranked l) (hr : cs.remove i = .ok cs') :
    cs'.Ranked ((l.erase i).map (lowered i)) := by
  constructor
  · obtain ⟨c, -, rfl⟩ := remove_eq_ok.mp hr
    intro d hd
    obtain ⟨d', hd', rfl⟩ := List.mem_map.mp (List.mem_of_mem_eraseIdx hd)
    simpa using h.sorted_iff d' hd'
  · intro j r
    have hmap : ((l.erase i).map (lowered i))[r]? = some j ↔
        ∃ k, (l.erase i)[r]? = some k ∧ lowered i k = j := by
      rw [List.getElem?_map, Option.map_eq_some_iff]
    rw [priorityAt_remove hr, hmap]
    constructor
    · intro hplace
      have hne := raised_ne i j
      exact ⟨raised i j, (h.released_iff i).mp ⟨hne, hplace⟩, (lowered_eq_iff hne).mpr rfl⟩
    · intro ⟨k, hk, hkj⟩
      obtain ⟨hki, hplace⟩ := (h.released_iff i).mpr hk
      rwa [(lowered_eq_iff hki).mp hkj] at hplace

/-! ## Section 5: The refinement -/

/-- The priorities are dense and spell the order `l`, and the keys are the columns along it. -/
structure OrderedAs (cs : Columns) (l : List Nat) : Prop where
  dense : cs.isDense = true
  order_eq : cs.order = l
  sortKeys_eq : cs.sortKeys.map some = l.map cs.keyAt?

theorem Ranked.orderedAs (h : cs.Ranked l) : cs.OrderedAs l where
  dense := isDense_iff.mpr h.dense
  order_eq := h.order_eq
  sortKeys_eq := by rw [h.sorted_iff.numbered.sortKeys_eq, h.order_eq]

theorem exists_toggleSort (hi : cs[i]? = some c) : ∃ cs', cs.toggleSort i = .ok cs' :=
  ⟨_, toggleSort_eq_ok.mpr ⟨c, hi, rfl⟩⟩

theorem exists_sortTo (hi : cs[i]? = some c) (t : Option Direction) :
    ∃ cs', cs.sortTo i t = .ok cs' := by
  obtain ⟨cs₁, h₁⟩ := exists_toggleSort hi
  obtain ⟨c₁, hi₁, -⟩ := getElem?_toggleSort_self h₁ hi
  obtain ⟨cs₂, h₂⟩ := exists_toggleSort hi₁
  simp only [sortTo_eq_ok]
  by_cases hc : c.sort = t
  · exact ⟨cs, c, hi, by rw [if_pos hc]⟩
  by_cases hn : Direction.next c.sort = t
  · exact ⟨cs₁, c, hi, by rw [if_neg hc, if_pos hn]; exact h₁⟩
  · exact ⟨cs₂, c, hi, by rw [if_neg hc, if_neg hn]; exact ⟨cs₁, h₁, h₂⟩⟩

theorem exists_remove (hi : cs[i]? = some c) : ∃ cs', cs.remove i = .ok cs' :=
  ⟨_, remove_eq_ok.mpr ⟨c, hi, rfl⟩⟩

/-- **Priorities refine a list of keys.**  On columns of dense priorities every change
    succeeds at every position, leaves paths and sorts alone elsewhere, and is surgery on
    the order: to the front, out of it, or neither. -/
theorem changes_reorder_keys (cs : Columns) (h : cs.isDense = true) :
    (∀ i c, cs[i]? = some c →
      (∃ cs', cs.toggleSort i = .ok cs' ∧
        cs'.shown = cs.shown.set i (c.path, Direction.next c.sort) ∧
        cs'.OrderedAs (reorder i (Direction.next c.sort) cs.order)) ∧
      (∀ t, ∃ cs', cs.sortTo i t = .ok cs' ∧
        if c.sort = t then cs' = cs ∧ cs'.OrderedAs cs.order
        else cs'.shown = cs.shown.set i (c.path, t) ∧ cs'.OrderedAs (reorder i t cs.order)) ∧
      (∃ cs', cs.remove i = .ok cs' ∧ cs'.shown = cs.shown.eraseIdx i ∧
        cs'.OrderedAs ((cs.order.erase i).map (lowered i)))) ∧
    ∀ path, (cs.add path).shown = cs.shown ++ [(path, none)] ∧
      (cs.add path).OrderedAs cs.order := by
  have hranked := (isDense_iff.mp h).ranked
  refine ⟨fun i c hi => ⟨?_, fun t => ?_, ?_⟩, fun path => ?_⟩
  · obtain ⟨cs', ht⟩ := exists_toggleSort hi
    exact ⟨cs', ht, shown_toggleSort ht hi, (hranked.toggleSort hi ht).orderedAs⟩
  · obtain ⟨cs', ht⟩ := exists_sortTo hi t
    refine ⟨cs', ht, ?_⟩
    have hsort := hranked.sortTo hi ht
    split at hsort
    next hc =>
      rw [if_pos hc, hsort]
      exact ⟨rfl, hranked.orderedAs⟩
    next hc =>
      rw [if_neg hc]
      exact ⟨shown_sortTo ht hi, hsort.orderedAs⟩
  · obtain ⟨cs', hr⟩ := exists_remove hi
    exact ⟨cs', hr, shown_remove hr, (hranked.remove hr).orderedAs⟩
  · exact ⟨shown_add path, (hranked.add path).orderedAs⟩

/-- Four columns of two paths, three of them sorted: the third one is the first key. -/
def fourColumns : Columns :=
  [.sorted "name" .ascending 1, { path := "age" }, .sorted "born" .descending 0,
    .sorted "name" .descending 2]

theorem changes_reorder_keys_of_four :
    fourColumns.isDense = true ∧ fourColumns[0]? = some (.sorted "name" .ascending 1) ∧
      ∃ cs', fourColumns.toggleSort 0 = .ok cs' ∧
        cs'.shown = fourColumns.shown.set 0 ("name", some .descending) ∧
        cs'.OrderedAs (reorder 0 (some .descending) fourColumns.order) :=
  have hdense : fourColumns.isDense = true :=
    isDense_iff.mpr ⟨by unfold PrioritiesMatch; decide, by decide⟩
  ⟨hdense, rfl, ((changes_reorder_keys fourColumns hdense).1 0 _ rfl).1⟩

end QueryComposer.Columns
