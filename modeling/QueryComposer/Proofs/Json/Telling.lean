import QueryComposer.Proofs.Json.Same
import QueryComposer.Schema.Document

/-! # What values tell

    A value tells its reader something if it can be read, and if whatever is the
    same value, with its members in another order, is read alike.  In
    particular the value by itself is read alike.

    Documents are put together from texts, numbers, lists, tables and records.
    There is one lemma for each of these ways: if the parts tell what they
    should, so does the whole. -/

namespace QueryComposer.Json

open Outcome

/-- Read from the value, or from any that is the same, there comes one thing. -/
structure Tells {α : Type} (read : Json → Option α) (v : Json) (a : α) : Prop where
  /-- No name stands twice in the value. -/
  same : v.Same v
  /-- What is read. -/
  read_same : ∀ w, v.Same w → read w = some a

section combinators
variable {α : Type} {read : Json → Option α} {write : α → Json} {v : Json} {a : α}

theorem Tells.read_self (h : Tells read v a) : read v = some a := h.read_same v h.same

/-- The value by itself tells the same. -/
theorem Tells.exists_settled? (h : Tells read v a) : ∃ u, v.settled? = some u ∧ read u = some a := by
  obtain ⟨u, hu, -, hsame⟩ := exists_settled?_of_same h.same
  exact ⟨u, hu, h.read_same u hsame⟩

/-- Reading gives one thing from the value as it is written, from the value by itself, and from
    the value with its members in any other order. -/
def ReadsBack (read : Json → Option α) (v : Json) (a : α) : Prop :=
  read v = some a ∧ (∃ u, v.settled? = some u ∧ read u = some a) ∧
    ∀ w, v.Same w → read w = some a

theorem Tells.readsBack (h : Tells read v a) : ReadsBack read v a :=
  ⟨h.read_self, h.exists_settled?, h.read_same⟩

/-! ## Section 1: Single values -/

theorem tells_string {s : String} (h : read (.string s) = some a) :
    Tells read (.string s) a := by
  refine ⟨.string s, ?_⟩
  intro w hw
  cases hw with
  | string s => exact h

theorem tells_text (s : String) : Tells text? (.string s) s := tells_string rfl

theorem tells_bool (b : Bool) : Tells bool? (.bool b) b := by
  refine ⟨.bool b, ?_⟩
  intro w hw
  cases hw with
  | bool b => rfl

theorem tells_number {n : Number} (h : read (.number n) = some a) : Tells read (.number n) a := by
  refine ⟨.number n, ?_⟩
  intro w hw
  cases hw with
  | number n => exact h

theorem tells_natBelow {bound n : Nat} (h : n < bound) : Tells (natBelow? bound) (ofNat n) n :=
  tells_number (if_pos h)

/-- A value by itself is kept as it is. -/
theorem tells_settled (h : v.settled? = some v) : Tells settled? v v := by
  refine ⟨same_self_of_settlesTo h, ?_⟩
  intro w hw
  -- both come to the same by themselves, and the first one is there already
  obtain ⟨u, hv, hw, -⟩ := exists_settled?_of_same hw
  have hv : v.settled? = some u := hv
  rw [h] at hv
  cases hv
  exact hw

/-- A value that may be missing, if nobody reads `null` as anything else. -/
theorem tells_nullable (o : Option α) (hnull : read .null = none)
    (h : ∀ a, o = some a → Tells read (write a) a) : Tells (nullable? read) (ofOption write o) o := by
  cases o with
  | none =>
    refine ⟨.null, ?_⟩
    intro w hw
    cases hw with
    | null => rfl
  | some a =>
    have ha := h a rfl
    refine ⟨ha.same, ?_⟩
    intro w hw
    have hread := ha.read_same w hw
    unfold nullable?
    split
    next =>
      -- what is written for something is never `null`, since that would not be read
      rw [hnull] at hread
      cases hread
    next => rw [hread, Option.map_some]

/-! ## Section 2: Lists, tables and records -/

theorem tells_list (as : List α) (h : ∀ a ∈ as, Tells read (write a) a) :
    Tells (list? read) (.array (as.map write)) as := by
  constructor
  · refine same_array_self ?_
    intro v hv
    obtain ⟨a, ha, rfl⟩ := List.mem_map.mp hv
    exact (h a ha).same
  · intro w hw
    obtain ⟨items, rfl, hitems⟩ := same_array_iff.mp hw
    rw [List.forall₂_map_left_iff] at hitems
    show items.mapM read = some as
    rw [mapM_eq_some]
    have hflip : List.Forall₂ (fun a w => a ∈ as ∧ (write a).Same w) as items :=
      (List.forall₂_and_left _ _).mpr ⟨fun _ ha => ha, hitems⟩
    exact (hflip.imp fun a w hw => (h a hw.1).read_same w hw.2).flip

theorem entries?_eq_mapM {members : List (String × Json)} :
    KeyMap.entries? read members = members.mapM fun m => (read m.2).map (m.1, ·) := by
  induction members with
  | nil => rfl
  | cons m members ih =>
    rw [KeyMap.entries?, ih, List.mapM_cons]
    cases read m.2 with
    | none => rfl
    | some a => rfl

theorem tells_table {m : KeyMap α} (hordered : m.Ordered)
    (h : ∀ x ∈ m, Tells read (write x.2) x.2) :
    Tells (KeyMap.ofJson? read) (m.toJson write) m := by
  have hnames : (m.map fun x => (x.1, write x.2)).map (·.1) = m.names := by
    rw [List.map_map]
    rfl
  have hnodup := hnames ▸ hordered.nodup_names
  constructor
  · refine same_object_self hnodup ?_
    intro e he
    obtain ⟨x, hx, rfl⟩ := List.mem_map.mp he
    exact (h x hx).same
  · intro w hw
    obtain ⟨members, aligned, haligned, hperm, rfl⟩ := same_object_inv hw
    rw [List.forall₂_map_left_iff] at haligned
    -- each member side by side with its entry is read as that entry
    have hread : List.Forall₂ (fun e x => (read e.2).map (e.1, ·) = some x) aligned m := by
      have hmem := (List.forall₂_and_left _ _).mpr ⟨fun _ hx => hx, haligned⟩
      refine (hmem.imp ?_).flip
      intro x e hx
      have hvalue := (h x hx.1).read_same e.2 hx.2.2
      have hname : x.1 = e.1 := hx.2.1
      simp [flip, hvalue, ← hname]
    -- the members come in some order, and the table does not depend on it
    obtain ⟨entries, hentries, hperm⟩ := List.perm_comp_forall₂ hperm.symm hread
    show (KeyMap.entries? read members).map KeyMap.ofEntries = some m
    rw [entries?_eq_mapM, mapM_eq_some.mpr hentries, Option.map_some, hordered.ofEntries_eq hperm]

/-- A record tells what is read from its members, wherever they stand.  Members with a default
    may have been left out. -/
theorem tells_record {members : List (String × Json)} (names absent : List String)
    (hnames : members.map (·.1) ++ absent = names) (hnodup : names.Nodup)
    (hsame : ∀ m ∈ members, Same m.2 m.2)
    (hread : ∀ w ws, List.Forall₂ Same (members.map (·.2)) ws →
      w.slots? names = some (ws.map .given ++ absent.map fun _ => .omitted) → read w = some a) :
    Tells read (.object members) a := by
  subst hnames
  obtain ⟨hnodup, -, hdisjoint⟩ := List.nodup_append.mp hnodup
  refine ⟨same_object_self hnodup hsame, ?_⟩
  intro w hw
  have habsent : ∀ name ∈ absent, name ∉ members.map (·.1) :=
    fun name hname hmem => hdisjoint name hmem name hname rfl
  obtain ⟨ws, hws, hslots⟩ := exists_slots?_of_same hw habsent
  exact hread w ws hws hslots

end combinators

end QueryComposer.Json
