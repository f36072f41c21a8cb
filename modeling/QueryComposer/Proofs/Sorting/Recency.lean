import Mathlib.Data.List.Induction
import QueryComposer.Proofs.Sorting.MoveToFront

/-! # The order after many clicks

    Columns that nobody has sorted yet are clicked on, one after another.  What
    comes of it can be read off the list of clicks without following the run:
    how often a column was clicked on tells its sort, and how long ago that was
    for the last time tells its rank.

    * `Direction.afterClicks` is the sort after so many clicks.
    * `LatestFirst clicks l` says that `l` lists the columns left sorted, the
      one clicked on last first.
    * One click keeps the columns ranked by such a list (`LatestFirst.click`),
      and so does a run of them. -/

namespace QueryComposer

open Outcome

/-! ## Section 1: Counting clicks -/

/-- The sort of a column that had none, after so many clicks on it. -/
def Direction.afterClicks (n : Nat) : Option Direction :=
  match n % 3 with
  | 0 => none
  | 1 => some .ascending
  | _ => some .descending

theorem Direction.next_afterClicks (n : Nat) : next (afterClicks n) = afterClicks (n + 1) := by
  have hcases : n % 3 = 0 ∨ n % 3 = 1 ∨ n % 3 = 2 := by omega
  unfold afterClicks
  rcases hcases with h | h | h
  · have hsucc : (n + 1) % 3 = 1 := by omega
    simp [h, hsucc, next]
  · have hsucc : (n + 1) % 3 = 2 := by omega
    simp [h, hsucc, next]
  · have hsucc : (n + 1) % 3 = 0 := by omega
    simp [h, hsucc, next]

theorem Direction.isSome_afterClicks {n : Nat} : (afterClicks n).isSome = true ↔ n % 3 ≠ 0 := by
  unfold afterClicks
  split
  next h => simp [h]
  next h => simp [h]
  next hzero _ => simpa using hzero

namespace Columns

/-- The columns after clicks at some positions, one after another. -/
def toggleSorts (cs : Columns) (clicks : List Nat) : Except QueryError Columns :=
  clicks.foldlM toggleSort cs

/-- How many clicks there were since the last one on the column at a position; all of them if
    there was none on it. -/
def clicksSince (clicks : List Nat) (i : Nat) : Nat := clicks.reverse.idxOf i

/-- The list has the columns that the clicks leave sorted, the one clicked on last first. -/
structure LatestFirst (clicks l : List Nat) : Prop where
  mem_iff : ∀ i, i ∈ l ↔ clicks.count i % 3 ≠ 0
  latest_first : l.Pairwise fun i j => clicksSince clicks i < clicksSince clicks j

variable {cs cs' : Columns} {clicks l l' : List Nat} {i k : Nat}

/-- A click moves the column to the front of time and puts all others one click back. -/
theorem clicksSince_append (clicks : List Nat) (k i : Nat) :
    clicksSince (clicks ++ [k]) i = if i = k then 0 else clicksSince clicks i + 1 := by
  unfold clicksSince
  rw [List.reverse_append, List.reverse_singleton, List.singleton_append, List.idxOf_cons]
  by_cases hi : i = k
  · simp [hi]
  · have hki : (k == i) = false := beq_eq_false_iff_ne.mpr (Ne.symm hi)
    simp [hi, hki]

theorem count_append_click (clicks : List Nat) (k i : Nat) :
    (clicks ++ [k]).count i = clicks.count i + if i = k then 1 else 0 := by
  rw [List.count_append, List.count_singleton]
  by_cases hi : i = k
  · simp [hi]
  · have hki : ¬ k = i := fun h => hi h.symm
    simp [hi, hki]

/-! ## Section 2: The list of the columns left sorted -/

theorem mem_reorder (hl : l.Nodup) {t : Option Direction} :
    i ∈ reorder k t l ↔ if i = k then t.isSome = true else i ∈ l := by
  cases t <;> by_cases hi : i = k <;> simp [reorder, hl.mem_erase_iff, hi]

namespace LatestFirst

theorem nodup (h : LatestFirst clicks l) : l.Nodup :=
  h.latest_first.imp fun hlt heq => by
    rw [heq] at hlt
    exact Nat.lt_irrefl _ hlt

theorem nil : LatestFirst [] [] := ⟨fun i => by simp, .nil⟩

/-- There is only one such list. -/
theorem unique (h : LatestFirst clicks l) (h' : LatestFirst clicks l') : l' = l := by
  have hmem : ∀ i, i ∈ l' ↔ i ∈ l := fun i => (h'.mem_iff i).trans (h.mem_iff i).symm
  have hperm : l'.Perm l := (List.perm_ext_iff_of_nodup h'.nodup h.nodup).mpr hmem
  exact hperm.eq_of_pairwise (fun _ _ _ _ hij hji => absurd hij (Nat.lt_asymm hji))
    h'.latest_first h.latest_first

/-- A click on a column does to the list what it does to the order. -/
theorem click (h : LatestFirst clicks l) (k : Nat) :
    LatestFirst (clicks ++ [k])
      (reorder k (Direction.afterClicks (clicks.count k + 1)) l) := by
  -- the columns that stay where they are were not clicked on, so all of them are one click older
  have hrest : (l.erase k).Pairwise fun i j =>
      clicksSince (clicks ++ [k]) i < clicksSince (clicks ++ [k]) j := by
    have hold := h.latest_first.sublist (List.erase_sublist (a := k))
    refine hold.imp_of_mem fun {i j} hi hj hlt => ?_
    have hik : i ≠ k := (h.nodup.mem_erase_iff.mp hi).1
    have hjk : j ≠ k := (h.nodup.mem_erase_iff.mp hj).1
    rw [clicksSince_append, clicksSince_append, if_neg hik, if_neg hjk]
    omega
  constructor
  · intro i
    rw [mem_reorder h.nodup, count_append_click]
    by_cases hi : i = k
    · rw [if_pos hi, if_pos hi, hi]
      exact Direction.isSome_afterClicks
    · rw [if_neg hi, if_neg hi]
      exact h.mem_iff i
  · cases Direction.afterClicks (clicks.count k + 1) with
    | none => exact hrest
    | some d =>
      refine List.pairwise_cons.mpr ⟨fun j hj => ?_, hrest⟩
      have hjk : j ≠ k := (h.nodup.mem_erase_iff.mp hj).1
      rw [clicksSince_append, clicksSince_append, if_pos rfl, if_neg hjk]
      exact Nat.succ_pos _

end LatestFirst

/-! ## Section 3: Runs of clicks -/

/-- The paths as they were, with the sorts that the clicks lead to. -/
def clicked (cs : Columns) (clicks : List Nat) : List (String × Option Direction) :=
  cs.mapIdx fun i c => (c.path, Direction.afterClicks (clicks.count i))

theorem getElem?_clicked : (cs.clicked clicks)[i]? =
    cs[i]?.map fun c => (c.path, Direction.afterClicks (clicks.count i)) :=
  List.getElem?_mapIdx

/-- The columns that a run of clicks has led to. -/
structure ClickedTo (cs : Columns) (clicks l : List Nat) (cs' : Columns) : Prop where
  shown : cs'.shown = cs.clicked clicks
  latest : LatestFirst clicks l
  ranked : cs'.Ranked l

/-- Nobody has clicked yet. -/
theorem clickedTo_nil (hplain : ∀ c ∈ cs, c.sort = none ∧ c.priority = none) :
    cs.ClickedTo [] [] cs where
  shown := by
    refine List.ext_getElem? fun i => ?_
    rw [getElem?_clicked, Columns.shown, List.getElem?_map]
    cases hi : cs[i]? with
    | none => rfl
    | some c =>
      have hsort : c.sort = none := (hplain c (List.mem_of_getElem? hi)).1
      simp [hsort, Direction.afterClicks]
  latest := .nil
  ranked := by
    constructor
    · intro c hc
      rw [(hplain c hc).1, (hplain c hc).2]
      rfl
    · intro i r
      have hnone : cs.priorityAt i = none := by
        unfold priorityAt
        cases hi : cs[i]? with
        | none => rfl
        | some c => exact (hplain c (List.mem_of_getElem? hi)).2
      simp [hnone]

/-- One more click. -/
theorem ClickedTo.click (h : cs.ClickedTo clicks l cs') (hk : k < cs.length) :
    ∃ cs'', cs'.toggleSort k = .ok cs'' ∧ cs.ClickedTo (clicks ++ [k])
      (reorder k (Direction.afterClicks (clicks.count k + 1)) l) cs'' := by
  have hlen : cs'.length = cs.length := by
    rw [length_of_shown_eq h.shown, clicked, List.length_mapIdx]
  obtain ⟨c, hc⟩ : ∃ c, cs'[k]? = some c := ⟨_, List.getElem?_eq_getElem (hlen ▸ hk)⟩
  obtain ⟨c₀, hc₀⟩ : ∃ c₀, cs[k]? = some c₀ := ⟨_, List.getElem?_eq_getElem hk⟩
  -- the column has the path it always had, and the sort of the clicks so far
  have hpair : (c.path, c.sort) = (c₀.path, Direction.afterClicks (clicks.count k)) := by
    have hshown : cs'.shown[k]? = (cs.clicked clicks)[k]? := by rw [h.shown]
    rw [Columns.shown, List.getElem?_map, hc, getElem?_clicked, hc₀] at hshown
    exact Option.some.inj hshown
  obtain ⟨hpath, hsort⟩ := Prod.mk.inj hpair
  have hnext : Direction.next c.sort = Direction.afterClicks (clicks.count k + 1) := by
    rw [hsort, Direction.next_afterClicks]
  obtain ⟨cs'', ht⟩ := exists_toggleSort hc
  refine ⟨cs'', ht, ?_, h.latest.click k, ?_⟩
  · rw [shown_toggleSort ht hc, h.shown, hnext, hpath]
    refine List.ext_getElem? fun i => ?_
    rw [List.getElem?_set, getElem?_clicked, getElem?_clicked, count_append_click, clicked,
      List.length_mapIdx]
    by_cases hi : k = i
    · subst hi
      rw [if_pos rfl, if_pos hk, if_pos rfl, hc₀]
      rfl
    · have hik : ¬ i = k := fun h => hi h.symm
      simp [hi, hik]
  · rw [← hnext]
    exact h.ranked.toggleSort hc ht

theorem exists_clickedTo (hplain : ∀ c ∈ cs, c.sort = none ∧ c.priority = none)
    (hclicks : ∀ k ∈ clicks, k < cs.length) :
    ∃ cs' l, cs.toggleSorts clicks = .ok cs' ∧ cs.ClickedTo clicks l cs' := by
  -- the last click decides, so the clicks are taken off from the end
  induction clicks using List.reverseRecOn with
  | nil => exact ⟨cs, [], rfl, clickedTo_nil hplain⟩
  | append_singleton clicks k ih =>
    rw [List.forall_mem_append, List.forall_mem_singleton] at hclicks
    obtain ⟨cs₁, l, hrun, h₁⟩ := ih hclicks.1
    obtain ⟨cs', hk, h'⟩ := h₁.click hclicks.2
    refine ⟨cs', _, ?_, h'⟩
    unfold toggleSorts at hrun ⊢
    rw [List.foldlM_append, hrun, ok_bind, List.foldlM_cons, hk]
    rfl

/-- **The column clicked on last decides.**  Clicks on columns without sorts always succeed.
    They leave the paths alone; each column has the sort of its number of clicks, and the
    columns left sorted are the keys in the order of the last clicks on them, latest first,
    with the priorities from 0 up.  No other list fits the clicks. -/
theorem toggleSorts_rank_latest_first (cs : Columns) (clicks : List Nat)
    (hplain : ∀ c ∈ cs, c.sort = none ∧ c.priority = none)
    (hclicks : ∀ k ∈ clicks, k < cs.length) :
    ∃ cs' l, cs.toggleSorts clicks = .ok cs' ∧
      cs'.shown = cs.clicked clicks ∧
      LatestFirst clicks l ∧ (∀ l', LatestFirst clicks l' → l' = l) ∧
      cs'.Ranked l ∧ cs'.OrderedAs l := by
  obtain ⟨cs', l, hrun, h⟩ := exists_clickedTo hplain hclicks
  exact ⟨cs', l, hrun, h.shown, h.latest, fun l' => h.latest.unique, h.ranked, h.ranked.orderedAs⟩

/-- Four columns that nobody has sorted. -/
def fourPlain : Columns :=
  [{ path := "name" }, { path := "age" }, { path := "born" }, { path := "town" }]

/-- The first column goes all the way around and is out again. -/
def someClicks : List Nat := [0, 2, 1, 2, 0, 0, 3]

theorem toggleSorts_rank_latest_first_of_someClicks :
    (∀ c ∈ fourPlain, c.sort = none ∧ c.priority = none) ∧
      (∀ k ∈ someClicks, k < fourPlain.length) ∧
      ∃ cs', fourPlain.toggleSorts someClicks = .ok cs' ∧
        cs' = [{ path := "name" }, .sorted "age" .ascending 2, .sorted "born" .descending 1,
          .sorted "town" .ascending 0] ∧
        LatestFirst someClicks [3, 2, 1] ∧ cs'.OrderedAs [3, 2, 1] := by
  have hplain : ∀ c ∈ fourPlain, c.sort = none ∧ c.priority = none := by decide
  have hclicks : ∀ k ∈ someClicks, k < fourPlain.length := by decide
  obtain ⟨cs', l, hrun, -, -, hunique, -, hordered⟩ :=
    toggleSorts_rank_latest_first fourPlain someClicks hplain hclicks
  have hcs : cs' = [{ path := "name" }, .sorted "age" .ascending 2, .sorted "born" .descending 1,
      .sorted "town" .ascending 0] := by
    have hvalue : fourPlain.toggleSorts someClicks = .ok [{ path := "name" },
        .sorted "age" .ascending 2, .sorted "born" .descending 1, .sorted "town" .ascending 0] := by
      rfl
    exact Except.ok.inj (hrun.symm.trans hvalue)
  have hlist : LatestFirst someClicks [3, 2, 1] := by
    refine ⟨fun i => ?_, by decide⟩
    match i with
    | 0 | 1 | 2 | 3 => decide
    | i + 4 => simp [someClicks]
  rw [← hunique _ hlist] at hordered
  exact ⟨hplain, hclicks, cs', hrun, hcs, hlist, hordered⟩

end Columns

end QueryComposer
