import Mathlib.Data.List.Perm.Basic
import QueryComposer.Proofs.Json.Record

/-! # The same value with its members in another order

    A value is written with the members of each object in the order of the
    record, and by itself it has them in the order of their names, inside
    arrays and other objects too.  Whoever reads members by name cannot tell
    the two apart.

    * `Json.Same` says that two values differ in the order of members only, at
      any depth, and that no object has two members of one name.
    * `exists_settled?_of_same`: values that are the same are the same by
      themselves.
    * `same_self_of_settlesTo`: what a value is by itself has no name twice.
    * `exists_slots?_of_same`: a record is read alike from values that are the
      same. -/

namespace QueryComposer.Json

open Outcome

/-- The second value is the first one with the members of its objects in any order.  No object
    has two members of one name, and every part can be read. -/
inductive Same : Json → Json → Prop where
  | null : Same .null .null
  | bool (b : Bool) : Same (.bool b) (.bool b)
  | number (n : Number) : Same (.number n) (.number n)
  | string (s : String) : Same (.string s) (.string s)
  | array {items items' : List Json} : items.length = items'.length →
      (∀ v w, (v, w) ∈ items.zip items' → Same v w) → Same (.array items) (.array items')
  | object {members members' : List (String × Json)} : (members.map (·.1)).Nodup →
      (members'.map (·.1)).Perm (members.map (·.1)) →
      (∀ name v w, (name, v) ∈ members → (name, w) ∈ members' → Same v w) →
      Same (.object members) (.object members')

variable {R : Json → Json → Prop} {items items' : List Json}
  {members members' aligned : List (String × Json)} {name : String} {v w u : Json}

/-! ## Section 1: Items and members side by side -/

theorem same_array_iff : Same (.array items) w ↔
    ∃ items', w = .array items' ∧ List.Forall₂ Same items items' := by
  constructor
  · intro h
    cases h with
    | array hlength hitems =>
      exact ⟨_, rfl, List.forall₂_iff_zip.mpr ⟨hlength, fun h => hitems _ _ h⟩⟩
  · intro h
    obtain ⟨items', rfl, h⟩ := h
    obtain ⟨hlength, hitems⟩ := List.forall₂_iff_zip.mp h
    exact .array hlength fun _ _ h => hitems h

/-- Members of the same names can be put side by side. -/
theorem exists_aligned (hnames : (members'.map (·.1)).Perm (members.map (·.1)))
    (h : ∀ name v w, (name, v) ∈ members → (name, w) ∈ members' → R v w) :
    ∃ aligned, List.Forall₂ (Paired R) members aligned ∧ aligned.Perm members' := by
  -- the members of the second object, in the order of the names in the first
  have hcomp : Relation.Comp (fun names ms => names = ms.map (·.1)) List.Perm
      (members.map (·.1)) members' := by
    rw [List.eq_map_comp_perm]
    exact hnames.symm
  obtain ⟨aligned, heq, hperm⟩ := hcomp
  have hsame : List.Forall₂ (· = ·) (members.map (·.1)) (aligned.map (·.1)) := by
    rw [List.forall₂_eq_eq_eq]
    exact heq
  rw [List.forall₂_map_left_iff, List.forall₂_map_right_iff] at hsame
  -- members side by side have one name, so what is known of that name applies to both
  obtain ⟨hlength, hzip⟩ := List.forall₂_iff_zip.mp hsame
  refine ⟨aligned, List.forall₂_iff_zip.mpr ⟨hlength, fun {m m'} hm => ⟨hzip hm, ?_⟩⟩, hperm⟩
  obtain ⟨hleft, hright⟩ := List.of_mem_zip hm
  have hright : (m.1, m'.2) ∈ members' := by
    rw [hzip hm]
    exact hperm.subset hright
  exact h m.1 m.2 m'.2 hleft hright

theorem exists_paired_of_mem (h : List.Forall₂ (Paired R) members aligned)
    (hmem : (name, w) ∈ aligned) : ∃ v, (name, v) ∈ members ∧ R v w := by
  obtain ⟨⟨name', v⟩, hm, hname, hvw⟩ := exists_of_mem_right h hmem
  cases hname
  exact ⟨v, hm, hvw⟩

theorem map_fst_eq_of_paired (h : List.Forall₂ (Paired R) members aligned) :
    members.map (·.1) = aligned.map (·.1) := by
  induction h with
  | nil => rfl
  | cons hm _ ih => rw [List.map_cons, List.map_cons, hm.1, ih]

theorem eq_of_mem_of_nodup (hnodup : (members.map (·.1)).Nodup) (hv : (name, v) ∈ members)
    (hw : (name, w) ∈ members) : v = w := by
  have hv := filter_name_eq_singleton hnodup hv
  rw [filter_name_eq_singleton hnodup hw] at hv
  simpa using hv.symm

theorem Same.of_aligned (hnodup : (members.map (·.1)).Nodup)
    (h : List.Forall₂ (Paired Same) members aligned) (hperm : members'.Perm aligned) :
    Same (.object members) (.object members') := by
  have hnames := map_fst_eq_of_paired h
  refine .object hnodup (hnames ▸ hperm.map _) ?_
  intro name v w hv hw
  obtain ⟨v', hv', hsame⟩ := exists_paired_of_mem h (hperm.subset hw)
  rw [eq_of_mem_of_nodup hnodup hv hv']
  exact hsame

/-- An object that is the same has the same names, with values that are the same. -/
theorem same_object_inv (h : Same (.object members) w) :
    ∃ members' aligned, List.Forall₂ (Paired Same) members aligned ∧ aligned.Perm members' ∧
      .object members' = w := by
  cases h with
  | object _ hnames hvalues =>
    obtain ⟨aligned, haligned, hperm⟩ := exists_aligned hnames hvalues
    exact ⟨_, aligned, haligned, hperm, rfl⟩

/-- An object without names that stand twice is the same with its members in another order. -/
theorem Same.of_reordered (h : Same v v) (hreordered : Reordered v w) : Same v w := by
  cases hreordered with
  | object hperm =>
    cases h with
    | object hnodup _ hvalues =>
      refine .object hnodup (hperm.map _) ?_
      intro name v w hv hw
      exact hvalues name v w hv (hperm.subset hw)

/-! ## Section 2: Values by themselves -/

theorem same_array_self (h : ∀ v ∈ items, Same v v) : Same (.array items) (.array items) :=
  same_array_iff.mpr ⟨items, rfl, List.forall₂_same.mpr h⟩

theorem same_object_self (hnodup : (members.map (·.1)).Nodup)
    (h : ∀ m ∈ members, Same m.2 m.2) : Same (.object members) (.object members) :=
  .of_aligned hnodup (List.forall₂_same.mpr fun m hm => ⟨rfl, h m hm⟩) (.refl _)

/-- What each two elements have in common, put in a list. -/
theorem exists_common {α : Type} {A B C : α → α → Prop} {xs ys : List α}
    (h : List.Forall₂ (fun x y => ∃ z, A x z ∧ B y z ∧ C x z) xs ys) :
    ∃ zs, List.Forall₂ A xs zs ∧ List.Forall₂ B ys zs ∧ List.Forall₂ C xs zs := by
  induction h with
  | nil => exact ⟨[], .nil, .nil, .nil⟩
  | cons hxy _ ih =>
    obtain ⟨z, hA, hB, hC⟩ := hxy
    obtain ⟨zs, hAs, hBs, hCs⟩ := ih
    exact ⟨z :: zs, .cons hA hAs, .cons hB hBs, .cons hC hCs⟩

/-- Values that are the same are the same by themselves, and that is the same value again. -/
theorem exists_settled?_of_same (h : Same v w) : ∃ u, SettlesTo v u ∧ SettlesTo w u ∧ Same v u := by
  induction h with
  | null => exact ⟨_, rfl, rfl, .null⟩
  | bool b => exact ⟨_, rfl, rfl, .bool b⟩
  | number n => exact ⟨_, rfl, rfl, .number n⟩
  | string s => exact ⟨_, rfl, rfl, .string s⟩
  | array hlength _ ih =>
    have hitems := List.forall₂_iff_zip.mpr ⟨hlength, fun h => ih _ _ h⟩
    obtain ⟨us, hleft, hright, hsame⟩ := exists_common hitems
    exact ⟨.array us, settlesTo_array_iff.mpr ⟨us, hleft, rfl⟩,
      settlesTo_array_iff.mpr ⟨us, hright, rfl⟩, same_array_iff.mpr ⟨us, rfl, hsame⟩⟩
  | @object members members' hnodup hnames _ ih =>
    obtain ⟨aligned, haligned, hperm⟩ := exists_aligned hnames ih
    have hcommon : List.Forall₂ (fun m m' => ∃ e, Paired SettlesTo m e ∧ Paired SettlesTo m' e ∧
        Paired Same m e) members aligned := by
      refine haligned.imp ?_
      intro m m' hm
      obtain ⟨hname, u, hleft, hright, hsame⟩ := hm
      exact ⟨(m.1, u), ⟨rfl, hleft⟩, ⟨hname.symm, hright⟩, ⟨rfl, hsame⟩⟩
    obtain ⟨entries, hleft, hright, hsame⟩ := exists_common hcommon
    -- the settled members of the second object are those of the first in another order
    obtain ⟨entries', hright', hperm'⟩ := List.perm_comp_forall₂ hperm.symm hright
    have hnodup' : (entries.map (·.1)).Nodup := map_fst_eq_of_paired hleft ▸ hnodup
    have heq := KeyMap.ofEntries_eq_of_perm hnodup' hperm'
    refine ⟨.object (KeyMap.ofEntries entries), settlesTo_object_iff.mpr ⟨entries, hleft, rfl⟩,
      settlesTo_object_iff.mpr ⟨entries', hright', by rw [heq]⟩, ?_⟩
    exact .of_aligned hnodup hsame (KeyMap.ofEntries_perm hnodup')

/-- What a value is by itself has no name twice. -/
theorem same_self_of_settlesTo : ∀ {v u : Json}, SettlesTo v u → Same u u
  | .null, _, h => by
    cases h
    exact .null
  | .bool b, _, h => by
    cases h
    exact .bool b
  | .number n, _, h => by
    cases h
    exact .number n
  | .string s, _, h => by
    cases h
    exact .string s
  | .array items, _, h => by
    obtain ⟨us, hus, rfl⟩ := settlesTo_array_iff.mp h
    refine same_array_self fun u hu => ?_
    obtain ⟨v, hv, hvu⟩ := exists_of_mem_right hus hu
    exact same_self_of_settlesTo hvu
  | .object members, _, h => by
    obtain ⟨entries, hentries, rfl⟩ := settlesTo_object_iff.mp h
    -- a table has each name once, even if the members it was made of did not
    refine same_object_self (KeyMap.ordered_ofEntries entries).nodup_names fun e he => ?_
    obtain ⟨⟨name, v⟩, hm, -, hvalue⟩ :=
      exists_of_mem_right hentries (KeyMap.mem_of_mem_ofEntries he)
    exact same_self_of_settlesTo hvalue
termination_by v => sizeOf v
decreasing_by
  · have hsize := List.sizeOf_lt_of_mem hv
    simp
    omega
  · have hsize := List.sizeOf_lt_of_mem hm
    rw [Prod.mk.sizeOf_spec] at hsize
    simp
    omega

/-! ## Section 3: Records -/

theorem itemsReadable_iff : itemsReadable items = true ↔ ∀ v ∈ items, v.isReadable = true := by
  induction items with
  | nil => simp [itemsReadable]
  | cons v items ih => simp [itemsReadable, ih]

theorem membersReadable_iff :
    membersReadable members = true ↔ ∀ m ∈ members, m.2.isReadable = true := by
  induction members with
  | nil => simp [membersReadable]
  | cons m members ih => simp [membersReadable, ih]

/-- All of a value can be read if it is the same as another one. -/
theorem Same.isReadable (h : Same v w) : w.isReadable = true := by
  induction h with
  | null => rfl
  | bool => rfl
  | number => rfl
  | string => rfl
  | array hlength _ ih =>
    have hitems := List.forall₂_iff_zip.mpr ⟨hlength, fun h => ih _ _ h⟩
    rw [Json.isReadable, itemsReadable_iff]
    intro w hw
    obtain ⟨v, -, hread⟩ := exists_of_mem_right hitems hw
    exact hread
  | object hnodup hnames _ ih =>
    obtain ⟨aligned, haligned, hperm⟩ := exists_aligned hnames ih
    rw [Json.isReadable, membersReadable_iff]
    intro m hm
    obtain ⟨v, -, hread⟩ := exists_paired_of_mem haligned (hperm.symm.subset hm)
    exact hread

/-- The members of a record are found in any value that is the same, and those that were left
    out are missed there. -/
theorem exists_slots?_of_same {absent : List String} (h : Same (.object members) w)
    (habsent : ∀ name ∈ absent, name ∉ members.map (·.1)) :
    ∃ ws, List.Forall₂ Same (members.map (·.2)) ws ∧
      w.slots? (members.map (·.1) ++ absent) =
        some (ws.map .given ++ absent.map fun _ => .omitted) := by
  cases h with
  | @object _ members' hnodup hnames hvalues =>
    obtain ⟨aligned, haligned, hperm⟩ := exists_aligned hnames hvalues
    have hnodup' : (members'.map (·.1)).Nodup := hnames.nodup_iff.mpr hnodup
    -- the first names are looked up among the members, the others are found nowhere
    refine ⟨aligned.map (·.2), ?_, ?_⟩
    · rw [List.forall₂_map_left_iff, List.forall₂_map_right_iff]
      exact haligned.imp fun _ _ hm => hm.2
    · have hmissed : absent.mapM (memberSlot? members') = some (absent.map fun _ => .omitted) := by
        rw [mapM_eq_some, List.forall₂_map_right_iff, List.forall₂_same]
        intro name hname
        refine memberSlot?_of_not_mem fun hmem => habsent name hname ?_
        exact hnames.subset hmem
      rw [map_fst_eq_of_paired haligned]
      show (aligned.map (·.1) ++ absent).mapM (memberSlot? members') = _
      rw [List.mapM_append, mapM_memberSlot?_of_subset hnodup' hperm.subset, hmissed, List.map_map]
      rfl

/-- Taking the members of some names out of both objects leaves the rest the same. -/
theorem Same.filter_members (h : Same (.object members) (.object members')) (p : String → Bool) :
    Same (.object (members.filter (p ·.1))) (.object (members'.filter (p ·.1))) := by
  cases h with
  | object hnodup hnames hvalues =>
    have hnames' := hnames.filter p
    rw [List.filter_map, List.filter_map] at hnames'
    refine .object (hnodup.sublist (List.filter_sublist.map _)) hnames' ?_
    intro name v w hv hw
    exact hvalues name v w (List.mem_of_mem_filter hv) (List.mem_of_mem_filter hw)

end QueryComposer.Json
