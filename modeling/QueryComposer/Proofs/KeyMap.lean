import Mathlib.Data.List.Nodup
import QueryComposer.KeyMap

/-! # What tables list

    The names of a table increase, so a table lists each name once, and what is
    found under a name is one of its entries.  Putting an entry in keeps the
    names in order; so a table is known once its entries are, in whatever order
    they were put in. -/

namespace QueryComposer.KeyMap

variable {α : Type} {m : KeyMap α} {name : String} {a : α}

instance (m : KeyMap α) : Decidable m.Ordered :=
  inferInstanceAs (Decidable (m.Pairwise fun a b => a.1 < b.1))

theorem mem_of_find? (h : m.find? name = some a) : (name, a) ∈ m := by
  obtain ⟨before, after, rfl, -⟩ := List.lookup_eq_some_iff.mp h
  exact List.mem_append_right before List.mem_cons_self

theorem has_iff : m.has name = true ↔ ∃ a, m.find? name = some a := Option.isSome_iff_exists

theorem mem_names : name ∈ m.names ↔ m.has name = true := by
  unfold names has find?
  rw [List.mem_map, List.lookup_isSome_iff]
  simp only [beq_iff_eq, eq_comm (a := name)]

/-- A table lists each name once. -/
theorem Ordered.nodup_names (h : m.Ordered) : m.names.Nodup := by
  unfold names List.Nodup
  rw [List.pairwise_map]
  refine List.Pairwise.imp ?_ h
  intro x y hlt heq
  rw [heq] at hlt
  exact String.lt_irrefl _ hlt

/-! ## Putting entries in -/

variable {x : String × α} {entries : List (String × α)}

theorem mem_insert (h : x ∈ m.insert name a) : x = (name, a) ∨ x ∈ m := by
  induction m with
  | nil => exact .inl (List.mem_singleton.mp h)
  | cons y m ih =>
    unfold insert at h
    split at h
    next => exact List.mem_cons.mp h
    next =>
      split at h
      next =>
        -- the entry of the same name gives way
        rcases List.mem_cons.mp h with rfl | h
        · exact .inl rfl
        · exact .inr (List.mem_cons_of_mem y h)
      next =>
        rcases List.mem_cons.mp h with rfl | h
        · exact .inr List.mem_cons_self
        · rcases ih h with rfl | hmem
          · exact .inl rfl
          · exact .inr (List.mem_cons_of_mem y hmem)

theorem find?_cons (x : String × α) (m : KeyMap α) (other : String) :
    find? (x :: m) other = if other = x.1 then some x.2 else m.find? other := by
  unfold find?
  rw [List.lookup_cons]
  by_cases h : other = x.1
  · simp [h]
  · have hbeq : (other == x.1) = false := beq_false_of_ne h
    simp [h, hbeq]

/-- An entry put in is found under its name; under any other name stands what stood there. -/
theorem find?_insert (m : KeyMap α) (name : String) (a : α) (other : String) :
    (m.insert name a).find? other = if other = name then some a else m.find? other := by
  induction m with
  | nil => exact find?_cons (name, a) [] other
  | cons x m ih =>
    unfold insert
    split
    next => rw [find?_cons]
    next =>
      split
      next heq =>
        -- the entry of the same name, which gave way, would not be found anyway
        rw [find?_cons, find?_cons x]
        by_cases hother : other = name
        · simp [hother]
        · have hx : ¬ other = x.1 := heq ▸ hother
          simp [hother, hx]
      next hne =>
        rw [find?_cons, find?_cons x, ih]
        by_cases hother : other = name
        · simp [hother, hne]
        · simp [hother]

theorem has_insert {other : String} :
    (m.insert name a).has other = true ↔ other = name ∨ m.has other = true := by
  unfold has
  rw [find?_insert]
  by_cases h : other = name
  · simp [h]
  · simp [h]

theorem Ordered.insert (h : m.Ordered) (name : String) (a : α) : (m.insert name a).Ordered := by
  induction m with
  | nil => exact List.pairwise_singleton _ _
  | cons y m ih =>
    have hlater := (List.pairwise_cons.mp h).1
    have hrest := (List.pairwise_cons.mp h).2
    unfold KeyMap.insert
    by_cases hlt : name < y.1
    · rw [if_pos hlt]
      refine List.pairwise_cons.mpr ⟨fun x hx => ?_, h⟩
      rcases List.mem_cons.mp hx with rfl | hx
      · exact hlt
      · exact String.lt_trans hlt (hlater x hx)
    · rw [if_neg hlt]
      by_cases heq : name = y.1
      · rw [if_pos heq]
        exact List.pairwise_cons.mpr ⟨fun x hx => heq ▸ hlater x hx, hrest⟩
      · rw [if_neg heq]
        have hbefore : y.1 < name :=
          Std.lt_of_le_of_ne (String.not_lt.mp hlt) (fun h => heq h.symm)
        refine List.pairwise_cons.mpr ⟨fun x hx => ?_, ih hrest⟩
        rcases mem_insert hx with rfl | hx
        · exact hbefore
        · exact hlater x hx

/-- An entry of a new name is put in beside the others. -/
theorem insert_perm (h : name ∉ m.names) : (m.insert name a).Perm ((name, a) :: m) := by
  induction m with
  | nil => exact .refl _
  | cons y m ih =>
    rw [names, List.map_cons, List.mem_cons, not_or] at h
    unfold insert
    split
    next => exact .refl _
    next =>
      rw [if_neg h.1]
      exact ((ih h.2).cons y).trans (.swap _ _ _)

/-- Entries put into a table one after another. -/
theorem foldl_insert_perm (h : ((entries ++ m).map (·.1)).Nodup) :
    (entries.foldl (fun m x => m.insert x.1 x.2) m).Perm (entries ++ m) := by
  induction entries generalizing m with
  | nil => exact .refl _
  | cons x entries ih =>
    have hfresh : x.1 ∉ m.names := by
      rw [List.cons_append, List.map_cons, List.nodup_cons, List.map_append, List.mem_append,
        not_or] at h
      exact h.1.2
    have hmoved : (entries ++ m.insert x.1 x.2).Perm (x :: entries ++ m) :=
      ((insert_perm hfresh).append_left entries).trans List.perm_middle
    exact (ih ((hmoved.map _).nodup_iff.mpr h)).trans hmoved

theorem ordered_foldl_insert (h : m.Ordered) :
    (entries.foldl (fun m x => m.insert x.1 x.2) m).Ordered := by
  induction entries generalizing m with
  | nil => exact h
  | cons x entries ih => exact ih (h.insert x.1 x.2)

theorem mem_of_mem_foldl_insert (h : x ∈ entries.foldl (fun m x => m.insert x.1 x.2) m) :
    x ∈ entries ∨ x ∈ m := by
  induction entries generalizing m with
  | nil => exact .inr h
  | cons y entries ih =>
    rcases ih h with hmem | hmem
    · exact .inl (List.mem_cons_of_mem y hmem)
    · rcases mem_insert hmem with rfl | hmem
      · exact .inl List.mem_cons_self
      · exact .inr hmem

/-- A table holds nothing but the entries that were put in. -/
theorem mem_of_mem_ofEntries (h : x ∈ ofEntries entries) : x ∈ entries := by
  rcases mem_of_mem_foldl_insert h with hmem | hmem
  · exact hmem
  · cases hmem

theorem has_foldl_insert : (entries.foldl (fun m x => m.insert x.1 x.2) m).has name = true ↔
    name ∈ entries.map (·.1) ∨ m.has name = true := by
  induction entries generalizing m with
  | nil => simp
  | cons x entries ih =>
    rw [List.foldl_cons, ih, has_insert, List.map_cons, List.mem_cons, or_left_comm, or_assoc]

/-- A table has the names of the entries that were put in. -/
theorem has_ofEntries : (ofEntries entries).has name = true ↔ name ∈ entries.map (·.1) := by
  have hnil : has ([] : KeyMap α) name = false := rfl
  refine has_foldl_insert.trans ?_
  rw [hnil]
  exact or_iff_left Bool.false_ne_true

theorem ofEntries_perm (h : (entries.map (·.1)).Nodup) : (ofEntries entries).Perm entries := by
  rw [← List.append_nil entries] at h
  have hperm := foldl_insert_perm h
  rwa [List.append_nil] at hperm

theorem ordered_ofEntries (entries : List (String × α)) : (ofEntries entries).Ordered :=
  ordered_foldl_insert .nil

/-- Two tables of the same entries are equal. -/
theorem Ordered.eq_of_perm {m' : KeyMap α} (h : m.Ordered) (h' : m'.Ordered) (hperm : m.Perm m') :
    m = m' :=
  hperm.eq_of_pairwise (fun _ _ _ _ hab hba => absurd hba (String.lt_asymm hab)) h h'

/-- The entries of a table make up the table, in whatever order they are given. -/
theorem Ordered.ofEntries_eq (h : m.Ordered) (hperm : entries.Perm m) : ofEntries entries = m := by
  have hnodup : (entries.map (·.1)).Nodup := (hperm.map _).nodup_iff.mpr h.nodup_names
  exact (ordered_ofEntries entries).eq_of_perm h ((ofEntries_perm hnodup).trans hperm)

/-- The order in which entries of different names are given does not matter. -/
theorem ofEntries_eq_of_perm {entries' : List (String × α)} (h : (entries.map (·.1)).Nodup)
    (hperm : entries'.Perm entries) : ofEntries entries' = ofEntries entries :=
  (ordered_ofEntries entries).ofEntries_eq (hperm.trans (ofEntries_perm h).symm)

end QueryComposer.KeyMap
