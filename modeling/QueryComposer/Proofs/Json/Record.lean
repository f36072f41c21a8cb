import QueryComposer.Json.Record
import QueryComposer.Proofs.KeyMap
import QueryComposer.Proofs.Outcome

/-! # Members in any order

    An object is written with its members in the order of the record, while a
    value by itself has them in the order of their names.  A record is read alike
    from both, since each member is looked up by its name, and no name is there
    twice.

    * `Json.Reordered` says that two objects have the same members.
    * `memberSlot?_of_mem`, `memberSlot?_of_not_mem`: what a name stands for.
    * `settlesTo_array_iff`, `settlesTo_object_iff`: what a value is by itself.
    * `exists_reordered_settled?`: settling an object only reorders it. -/

namespace QueryComposer.Json

open Outcome

/-- The second value is the same object as the first, with its members in any order. -/
inductive Reordered : Json → Json → Prop where
  | object {members members' : List (String × Json)} :
      members'.Perm members → Reordered (.object members) (.object members')

/-! ## Section 1: Reading members -/

variable {members placed : List (String × Json)} {name : String} {v w : Json}

theorem filter_name_eq_nil (h : name ∉ members.map (·.1)) : members.filter (·.1 = name) = [] := by
  rw [List.filter_eq_nil_iff]
  intro m hm hname
  exact h (List.mem_map.mpr ⟨m, hm, of_decide_eq_true hname⟩)

theorem filter_name_eq_singleton (hnodup : (members.map (·.1)).Nodup) (h : (name, v) ∈ members) :
    members.filter (·.1 = name) = [(name, v)] := by
  induction members with
  | nil => cases h
  | cons m members ih =>
    rw [List.map_cons, List.nodup_cons] at hnodup
    rcases List.mem_cons.mp h with rfl | h
    · rw [List.filter_cons_of_pos (by simp), filter_name_eq_nil hnodup.1]
    · have hne : m.1 ≠ name := fun heq => hnodup.1 (List.mem_map.mpr ⟨_, h, heq.symm⟩)
      rw [List.filter_cons_of_neg (by simpa using hne)]
      exact ih hnodup.2 h

/-- A member is found under its name, if that is the name of no other. -/
theorem memberSlot?_of_mem (hnodup : (members.map (·.1)).Nodup) (h : (name, v) ∈ members) :
    memberSlot? members name = some (.given v) := by
  have honly := filter_name_eq_singleton hnodup h
  unfold memberSlot?
  split
  next hnone => cases hnone.symm.trans honly
  next hone =>
    cases hone.symm.trans honly
    rfl
  next hmany => exact absurd honly (hmany _ _)

/-- A name that no member has. -/
theorem memberSlot?_of_not_mem (h : name ∉ members.map (·.1)) :
    memberSlot? members name = some .omitted := by
  have hnone := filter_name_eq_nil h
  unfold memberSlot?
  split
  next => rfl
  next hone => cases hone.symm.trans hnone
  next hmany _ => exact absurd hnone hmany

theorem mapM_memberSlot?_of_subset {written : List (String × Json)}
    (hnodup : (members.map (·.1)).Nodup) (h : written ⊆ members) :
    (written.map (·.1)).mapM (memberSlot? members) = some (written.map fun m => .given m.2) := by
  rw [mapM_eq_some, List.forall₂_map_left_iff, List.forall₂_map_right_iff, List.forall₂_same]
  intro m hm
  exact memberSlot?_of_mem hnodup (h hm)

section slots
variable {α : Type} {d : α} {read : Json → Option α}

@[simp] theorem Slot.required_given : required read (.given v) = read v := rfl

@[simp] theorem Slot.withDefault_given : withDefault d read (.given v) = read v := rfl

@[simp] theorem Slot.withDefault_omitted : withDefault d read .omitted = some d := rfl

@[simp] theorem Slot.optional_given : optional read (.given v) = nullable? read v := rfl

@[simp] theorem Slot.maybe_given : maybe read (.given v) = nullable? read v := rfl

end slots

/-! ## Section 2: Settling values -/

/-- The second value is the first one by itself. -/
def SettlesTo (v u : Json) : Prop := v.settled? = some u

/-- Members of one name with related values. -/
def Paired (R : Json → Json → Prop) (m m' : String × Json) : Prop := m.1 = m'.1 ∧ R m.2 m'.2

theorem settledItems?_eq_mapM {items : List Json} :
    settledItems? items = items.mapM settled? := by
  induction items with
  | nil => rfl
  | cons v items ih =>
    rw [settledItems?, ih, List.mapM_cons]

/-- Items are settled one by one. -/
theorem settlesTo_array_iff {items : List Json} :
    SettlesTo (.array items) w ↔ ∃ us, List.Forall₂ SettlesTo items us ∧ .array us = w := by
  unfold SettlesTo
  rw [settled?, Option.map_eq_some_iff]
  simp only [settledItems?_eq_mapM, mapM_eq_some]

theorem putMember_eq_insert : putMember name v placed = KeyMap.insert placed name v := by
  induction placed with
  | nil => rfl
  | cons m placed ih =>
    unfold putMember KeyMap.insert
    rw [ih]

/-- Members are settled one by one and put in their places. -/
theorem settledMembers?_eq_some {members' : List (String × Json)} :
    settledMembers? members placed = some members' ↔
      ∃ entries, List.Forall₂ (Paired SettlesTo) members entries ∧
        entries.foldl (fun m x => KeyMap.insert m x.1 x.2) placed = members' := by
  induction members generalizing placed with
  | nil => simp [settledMembers?, List.forall₂_nil_left_iff]
  | cons m members ih =>
    rw [settledMembers?]
    constructor
    · intro h
      obtain ⟨u, hu, h⟩ := Option.bind_eq_some_iff.mp h
      obtain ⟨entries, hentries, hplaced⟩ := ih.mp h
      rw [putMember_eq_insert] at hplaced
      exact ⟨(m.1, u) :: entries, .cons ⟨rfl, hu⟩ hentries, hplaced⟩
    · intro h
      obtain ⟨all, hall, hplaced⟩ := h
      obtain ⟨e, entries, hm, hentries, rfl⟩ := List.forall₂_cons_left_iff.mp hall
      have hu : m.2.settled? = some e.2 := hm.2
      rw [hu, hm.1]
      refine ih.mpr ⟨entries, hentries, ?_⟩
      rw [putMember_eq_insert]
      exact hplaced

/-- What an object is by itself: the table of its settled members. -/
theorem settlesTo_object_iff : SettlesTo (.object members) w ↔
    ∃ entries, List.Forall₂ (Paired SettlesTo) members entries ∧
      .object (KeyMap.ofEntries entries) = w := by
  unfold SettlesTo
  rw [settled?, Option.map_eq_some_iff]
  constructor
  · intro h
    obtain ⟨members', hmembers, rfl⟩ := h
    obtain ⟨entries, hentries, rfl⟩ := settledMembers?_eq_some.mp hmembers
    exact ⟨entries, hentries, rfl⟩
  · intro h
    obtain ⟨entries, hentries, rfl⟩ := h
    exact ⟨_, settledMembers?_eq_some.mpr ⟨entries, hentries, rfl⟩, rfl⟩

/-- An object of settled values under different names is settled by reordering it. -/
theorem exists_reordered_settled? (hvalues : ∀ m ∈ members, m.2.settled? = some m.2)
    (hnodup : (members.map (·.1)).Nodup) :
    ∃ w, (object members).settled? = some w ∧ Reordered (.object members) w := by
  have hsettled : List.Forall₂ (Paired SettlesTo) members members :=
    List.forall₂_same.mpr fun m hm => ⟨rfl, hvalues m hm⟩
  exact ⟨_, settlesTo_object_iff.mpr ⟨members, hsettled, rfl⟩,
    .object (KeyMap.ofEntries_perm hnodup)⟩

end QueryComposer.Json
