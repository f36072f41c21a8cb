import QueryComposer.Proofs.Schema.Listing

/-! # How deep a listing goes

    A listing goes down the relations to a given depth.  A greater depth puts
    more entries between those that were there before, and changes none of them:
    what a listing says about a field does not depend on where it ends.

    * `filter_entriesFrom`: the entries up to a depth are the listing to that
      depth.
    * `Entry.LeadsTo` says that one entry is the relation through which another
      one was reached.
    * `Grounded` says that whatever is reached through a relation stands behind
      it in the list.

    Nothing is asked of the schema. -/

namespace QueryComposer

/-- The entry is a relation, and the other one a field of the model that it leads to, by their
    depths and paths. -/
structure Entry.LeadsTo (parent e : Entry) : Prop where
  isRelation : parent.field.isRelation = true
  depth_eq : e.depth = parent.depth + 1
  path_eq : ∃ rest, e.path = parent.path ++ pathSeparator ++ rest

namespace Schema

variable {s : Schema} {m m' : Model} {f : Field} {trail pretty : List String}
variable {name : String} {e : Entry} {hops hops' : Nat}

/-! ## Section 1: What a depth leaves out -/

theorem length_trail_le_depth (he : e ∈ s.entriesFrom trail pretty hops m) :
    trail.length ≤ e.depth := by
  obtain ⟨names, h⟩ := exists_lists_of_mem he
  have hpos := List.length_pos_iff.mpr h.reaches.ne_nil
  have hdepth := h.depth_eq
  omega

theorem length_trail_lt_depth (he : e ∈ s.entriesBehind (trail ++ [name]) pretty f hops) :
    trail.length < e.depth := by
  obtain ⟨n, m', -, -, he⟩ := mem_entriesBehind.mp he
  have hle := length_trail_le_depth he
  rw [List.length_append, List.length_singleton] at hle
  exact hle

/-- A condition that a field's own entry meets has to be looked at behind the field only. -/
theorem filter_entriesFrom_of_behind {p : Entry → Bool}
    (hown : ∀ e : Entry, e.depth = trail.length → p e = true)
    (hbehind : ∀ name f, (s.entriesBehind (trail ++ [name]) (pretty ++ [f.prettyName]) f hops').filter
      p = s.entriesBehind (trail ++ [name]) (pretty ++ [f.prettyName]) f hops) :
    (s.entriesFrom trail pretty hops' m).filter p = s.entriesFrom trail pretty hops m := by
  rw [entriesFrom_eq, entriesFrom_eq, List.filter_flatMap]
  refine List.flatMap_congr fun name _ => ?_
  unfold entriesAt
  cases m.fields.find? name with
  | none => rfl
  | some f =>
    show List.filter p (_ :: _) = _ :: _
    rw [List.filter_cons_of_pos (hown _ rfl), hbehind]

/-- Of a listing that goes deeper, the entries up to a depth are the listing to that depth. -/
theorem filter_entriesFrom {depth : Nat} (hdepth : depth = trail.length + hops)
    (h : hops ≤ hops') : (s.entriesFrom trail pretty hops' m).filter (fun e => e.depth ≤ depth) =
      s.entriesFrom trail pretty hops m := by
  induction hops generalizing hops' trail pretty m with
  | zero =>
    refine filter_entriesFrom_of_behind (fun e he => decide_eq_true (by omega)) fun name f => ?_
    -- no relation may be taken, and what lies behind one is too deep
    refine List.filter_eq_nil_iff.mpr fun e he => ?_
    have hlt := length_trail_lt_depth he
    rw [decide_eq_true_eq]
    omega
  | succ n ih =>
    refine filter_entriesFrom_of_behind (fun e he => decide_eq_true (by omega)) fun name f => ?_
    obtain ⟨n', rfl⟩ : ∃ n', hops' = n' + 1 := ⟨hops' - 1, by omega⟩
    simp only [entriesBehind]
    cases s.targetOf? f with
    | none => rfl
    | some m' =>
      refine ih ?_ (Nat.le_of_succ_le_succ h)
      rw [List.length_append, List.length_singleton]
      omega

/-! ## Section 2: What an entry says of its depth -/

theorem length_prettyPath (he : e ∈ s.entriesFrom trail pretty hops m)
    (hpretty : pretty.length = trail.length) : e.prettyPath.length = e.depth + 1 := by
  induction hops using Nat.strongRecOn generalizing trail pretty m with
  | ind hops ih =>
    obtain ⟨name, -, he⟩ := mem_entriesFrom.mp he
    obtain ⟨f, -, rfl | hbehind⟩ := mem_entriesAt.mp he
    · rw [List.length_append, List.length_singleton, hpretty]
    · obtain ⟨n, m', rfl, -, he⟩ := mem_entriesBehind.mp hbehind
      exact ih n (Nat.lt_succ_self n) he (by simp [hpretty])

/-- What stands directly behind a field was reached through it. -/
theorem leadsTo_of_mem_entriesBehind (he : e ∈ s.entriesBehind (trail ++ [name]) pretty f hops)
    (hdepth : e.depth = trail.length + 1) (prettyPath : List String) :
    Entry.LeadsTo ⟨Path.join (trail ++ [name]), prettyPath, f, trail.length⟩ e := by
  obtain ⟨n, m', -, htarget, he⟩ := mem_entriesBehind.mp he
  obtain ⟨t, ht, -⟩ := targetOf?_eq_some.mp htarget
  obtain ⟨names, h⟩ := exists_lists_of_mem he
  refine ⟨by rw [Field.isRelation, ht]; rfl, hdepth, Path.join names, ?_⟩
  rw [h.path_eq]
  exact String.intercalate_append_of_ne_nil (by simp) h.reaches.ne_nil

/-! ## Section 3: Relations stand before what lies behind them -/

/-- In the list every entry has the given depth, or stands behind the relation that leads
    to it. -/
def Grounded (depth : Nat) (entries : List Entry) : Prop :=
  ∀ (i : Nat) (e : Entry), entries[i]? = some e → e.depth = depth ∨
    ∃ j < i, ∃ parent : Entry, entries[j]? = some parent ∧ parent.LeadsTo e

namespace Grounded

variable {depth : Nat} {xs ys : List Entry} {parent : Entry}

theorem nil : Grounded depth [] := by
  intro i e he
  cases he

theorem append (hx : Grounded depth xs) (hy : Grounded depth ys) : Grounded depth (xs ++ ys) := by
  intro i e he
  rw [List.getElem?_append] at he
  split at he
  next hi =>
    obtain hdepth | ⟨j, hj, parent, hparent, hleads⟩ := hx i e he
    · exact .inl hdepth
    · exact .inr ⟨j, hj, parent, by rw [List.getElem?_append_left (by omega), hparent], hleads⟩
  next hi =>
    obtain hdepth | ⟨j, hj, parent, hparent, hleads⟩ := hy _ e he
    · exact .inl hdepth
    · refine .inr ⟨xs.length + j, by omega, parent, ?_, hleads⟩
      rw [List.getElem?_append_right (by omega), Nat.add_sub_cancel_left, hparent]

theorem flatMap {names : List String} {list : String → List Entry}
    (h : ∀ name ∈ names, Grounded depth (list name)) : Grounded depth (names.flatMap list) := by
  induction names with
  | nil => exact nil
  | cons name names ih =>
    rw [List.forall_mem_cons] at h
    rw [List.flatMap_cons]
    exact h.1.append (ih h.2)

/-- A relation in front of the entries that it leads to. -/
theorem cons (hparent : parent.depth = depth) (h : Grounded (depth + 1) xs)
    (hleads : ∀ e ∈ xs, e.depth = depth + 1 → parent.LeadsTo e) : Grounded depth (parent :: xs) := by
  intro i e he
  cases i with
  | zero =>
    cases he
    exact .inl hparent
  | succ i =>
    rw [List.getElem?_cons_succ] at he
    obtain hdepth | ⟨j, hj, parent', hparent', hleads'⟩ := h i e he
    · exact .inr ⟨0, Nat.succ_pos i, parent, rfl, hleads e (List.mem_of_getElem? he) hdepth⟩
    · exact .inr ⟨j + 1, Nat.succ_lt_succ hj, parent', hparent', hleads'⟩

end Grounded

theorem grounded_entriesFrom : Grounded trail.length (s.entriesFrom trail pretty hops m) := by
  induction hops using Nat.strongRecOn generalizing trail pretty m with
  | ind hops ih =>
    rw [entriesFrom_eq]
    refine .flatMap fun name _ => ?_
    unfold entriesAt
    cases m.fields.find? name with
    | none => exact .nil
    | some f =>
      refine .cons rfl ?_ fun e he hdepth => leadsTo_of_mem_entriesBehind he hdepth _
      cases hops with
      | zero => exact .nil
      | succ n =>
        simp only [entriesBehind]
        cases s.targetOf? f with
        | none => exact .nil
        | some m' =>
          have hbehind : Grounded (trail ++ [name]).length
              (s.entriesFrom (trail ++ [name]) (pretty ++ [f.prettyName]) n m') :=
            ih n (Nat.lt_succ_self n)
          rwa [List.length_append, List.length_singleton] at hbehind

/-! ## Section 4: Listings of a model -/

/-- **A depth only truncates a listing.**  Every model that exists is listed to every depth.  Of
    a listing that goes deeper, the entries up to a depth are the listing to that depth, in the
    same order.  An entry has one name for people more than its depth, and if it was reached
    through relations, the last of them stands before it. -/
theorem walk_to_depth_truncates (s : Schema) (model : String) (m : Model)
    (hm : s.model model = .ok m) (depth : Nat) : ∃ entries, s.walk model depth = .ok entries ∧
      (∀ depth', depth ≤ depth' → ∃ entries', s.walk model depth' = .ok entries' ∧
        entries'.filter (fun e => e.depth ≤ depth) = entries) ∧
      ∀ (i : Nat) (e : Entry), entries[i]? = some e → e.prettyPath.length = e.depth + 1 ∧
        ∀ k, e.depth = k + 1 → ∃ j < i, ∃ parent : Entry, entries[j]? = some parent ∧
          parent.depth = k ∧ parent.field.isRelation = true ∧
          ∃ rest, e.path = parent.path ++ pathSeparator ++ rest := by
  have hwalk : ∀ depth, s.walk model depth = .ok (s.entriesFrom [] [] depth m) := by
    intro depth
    rw [walk, hm]
    rfl
  refine ⟨_, hwalk depth, fun depth' hle => ⟨_, hwalk depth', ?_⟩, fun i e he => ⟨?_, ?_⟩⟩
  · exact filter_entriesFrom (Nat.zero_add depth).symm hle
  · exact length_prettyPath (List.mem_of_getElem? he) rfl
  · intro k hk
    obtain hzero | ⟨j, hj, parent, hparent, hleads⟩ := grounded_entriesFrom i e he
    · rw [hk] at hzero
      cases hzero
    · have hdepth := hleads.depth_eq
      exact ⟨j, hj, parent, hparent, by omega, hleads.isRelation, hleads.path_eq⟩

/-- The relations of the towns run in a circle, and can be listed to any depth. -/
theorem walk_to_depth_truncates_of_towns : ∃ m entries entries',
    towns.model "person" = .ok m ∧
      towns.walk "person" 1 = .ok entries ∧ towns.walk "person" 3 = .ok entries' ∧
      entries.map (·.path) = ["n_", "home", "home___name", "home__mayor"] ∧
      entries'.length = 8 ∧ entries'.filter (fun e => e.depth ≤ 1) = entries := by
  obtain ⟨entries, hwalk, htruncates, -⟩ := walk_to_depth_truncates towns "person" _ rfl 1
  obtain ⟨entries', hwalk', hfilter⟩ := htruncates 3 (by decide)
  refine ⟨_, entries, entries', rfl, hwalk, hwalk', ?_, ?_, hfilter⟩
  · cases hwalk
    decide +kernel
  · cases hwalk'
    decide +kernel

end Schema

end QueryComposer
