import QueryComposer.Proofs.Query.Document
import QueryComposer.Proofs.Text.Numeral

/-! # Row limits come to the same

    A row limit is typed by a user, or it stands in the document of a view, as a number
    or as the numeral of one.  Each of the three has a reader of its own.

    * `View.Limited`: a document of a view, and the same with a row limit put in.
    * `View.limits_read_alike`: all three readers take an integer of 64 bits with a
      sign for the nearest limit.  Between `2^63` and `2^64` only the reader of
      numbers still does. -/

namespace QueryComposer

open Outcome Json

/-! ## Section 1: Limits that are typed -/

namespace Limit

theorem natCast_clamp (n : Int) : (clamp n : Int) = max 1 (min n (2 ^ 32 - 1)) := by
  have hgreatest : greatest = 2 ^ 32 - 1 := rfl
  unfold clamp
  omega

/-- What was typed is an integer of 64 bits with a sign, or no limit at all. -/
theorem parse_repr_int {n : Int} (hlow : -2 ^ 63 ≤ n) :
    parse n.repr = if n < 2 ^ 63 then .ok (clamp n) else .error (.invalidLimit n.repr) := by
  unfold parse
  rw [Text.trim_repr, Text.integer64?_repr hlow]
  by_cases hn : n < 2 ^ 63
  · rw [if_pos hn, if_pos hn]
  · rw [if_neg hn, if_neg hn]

end Limit

/-! ## Section 2: Limits in documents -/

namespace View

/-- The second document is the first one with a row limit put in, as a member anywhere in an
    object that has none, or as the last item of an array. -/
inductive Limited (limit : Json) : Json → Json → Prop where
  | member {before after : List (String × Json)} : "limit" ∉ (before ++ after).map (·.1) →
      Limited limit (.object (before ++ after)) (.object (before ++ ("limit", limit) :: after))
  | item {items : List Json} : items.length = 6 →
      Limited limit (.array items) (.array (items ++ [limit]))

variable {limit d d' : Json} {n : Nat}

/-- The members but for the row limit. -/
def otherMembers : List String := ["name", "description", "public", "model", "fields", "query"]

theorem memberSlot?_limited {before after : List (String × Json)}
    (h : "limit" ∉ (before ++ after).map (·.1)) :
    memberSlot? (before ++ ("limit", limit) :: after) "limit" = some (.given limit) := by
  rw [List.map_append, List.mem_append, not_or] at h
  unfold memberSlot?
  rw [List.filter_append, List.filter_cons_of_pos (by simp), filter_name_eq_nil h.1,
    filter_name_eq_nil h.2]
  rfl

theorem memberSlot?_limited_of_ne {before after : List (String × Json)} {name : String}
    (h : name ≠ "limit") :
    memberSlot? (before ++ ("limit", limit) :: after) name =
      memberSlot? (before ++ after) name := by
  unfold memberSlot?
  rw [List.filter_append, List.filter_append, List.filter_cons_of_neg (by simpa using h.symm)]

/-- Putting in a limit fills the last slot and leaves the others. -/
theorem Limited.exists_slots? (h : Limited limit d d') : ∃ others last,
    (last = .omitted ∨ last = .cutOff) ∧
    (d.slots? members = others.bind fun slots => some (slots ++ [last])) ∧
    (d'.slots? members = others.bind fun slots => some (slots ++ [.given limit])) ∧
    ∀ slots, others = some slots → slots.length = 6 := by
  have hmembers : members = otherMembers ++ ["limit"] := rfl
  cases h with
  | @member before after hfree =>
    have hlast := memberSlot?_of_not_mem hfree
    have hothers : otherMembers.mapM (memberSlot? (before ++ ("limit", limit) :: after)) =
        otherMembers.mapM (memberSlot? (before ++ after)) := by
      simp [otherMembers, memberSlot?_limited_of_ne]
    refine ⟨otherMembers.mapM (memberSlot? (before ++ after)), .omitted, .inl rfl, ?_, ?_, ?_⟩
    · show members.mapM (memberSlot? (before ++ after)) = _
      rw [hmembers, List.mapM_append, List.mapM_cons, hlast]
      rfl
    · show members.mapM (memberSlot? (before ++ ("limit", limit) :: after)) = _
      rw [hmembers, List.mapM_append, hothers, List.mapM_cons, memberSlot?_limited hfree]
      rfl
    · intro slots hslots
      exact (mapM_eq_some.mp hslots).length_eq.symm
  | @item items hlength =>
    refine ⟨some (items.map .given), .cutOff, .inr rfl, ?_, ?_, ?_⟩
    · match items, hlength with
      | [_, _, _, _, _, _], _ => rfl
    · match items, hlength with
      | [_, _, _, _, _, _], _ => rfl
    · intro slots hslots
      cases hslots
      rw [List.length_map, hlength]

/-- A document with a limit put in is that view with that limit, if the limit is read. -/
theorem ofJson?_limited (h : Limited limit d d') (hlimit : limitOfJson? limit = some n) :
    ofJson? d' = (ofJson? d).map fun v => { v with limit := n } := by
  obtain ⟨others, last, hlast, hd, hd', hlength⟩ := h.exists_slots?
  have husual : last.withDefault Limit.standard limitOfJson? = some Limit.standard := by
    rcases hlast with rfl | rfl
    · rfl
    · rfl
  unfold ofJson?
  rw [hd, hd']
  cases others with
  | none => rfl
  | some slots =>
    match slots, hlength slots rfl with
    | [name, description, isPublic, model, fields, query], _ =>
      -- the record is made at the end of either chain of slots, where the limit goes in
      simp only [List.cons_append, List.nil_append, Option.bind_eq_bind, Option.bind_some,
        Option.pure_def, Slot.withDefault_given, hlimit, husual, Option.map_bind,
        Function.comp_def, Option.map_some]

theorem limitOfJson?_integer {n : Int} (h : n < 2 ^ 64) :
    limitOfJson? (.number (.integer n)) = some (Limit.clamp n) := by
  show some (Limit.clamp (Number.integer n).integer64) = _
  rw [Number.integer64_integer h]
  -- whatever is cut off above 63 bits is beyond every limit anyway
  have hclamp : Limit.clamp (min n (2 ^ 63 - 1)) = Limit.clamp n := by
    have hcut := Limit.natCast_clamp (min n (2 ^ 63 - 1))
    have hwhole := Limit.natCast_clamp n
    omega
  rw [hclamp]

theorem limitOfJson?_repr {n : Int} (h : -2 ^ 63 ≤ n) :
    limitOfJson? (.string n.repr) = some (if n < 2 ^ 63 then Limit.clamp n else 1) := by
  show some (Limit.clamp ((Text.integer64? (Text.trim n.repr.toList)).getD 1)) = _
  rw [Text.trim_repr, Text.integer64?_repr h]
  by_cases hn : n < 2 ^ 63
  · rw [if_pos hn, if_pos hn]
    rfl
  · rw [if_neg hn, if_neg hn]
    rfl

/-! ## Section 3: The three readers -/

/-- **Row limits are read alike within 64 bits with a sign.**  An integer that stands in a
    document is read as it is written, and a view whose limit it is has the nearest limit to
    it.  So has a view whose limit is given as the numeral, and so has a limit typed by a user,
    for integers below `2^63`.  A numeral from there on counts as 1 in a view and is refused
    when it is typed. -/
theorem limits_read_alike (n : Int) (hlow : -2 ^ 63 ≤ n) (hhigh : n < 2 ^ 64) :
    Json.parse? n.repr = some (.number (.integer n)) ∧
      ∃ nearest : Nat, (nearest : Int) = max 1 (min n (2 ^ 32 - 1)) ∧
        (∀ d d', Limited (.number (.integer n)) d d' →
          ofJson? d' = (ofJson? d).map fun v => { v with limit := nearest }) ∧
        (∀ d d', Limited (.string n.repr) d d' →
          ofJson? d' =
            (ofJson? d).map fun v => { v with limit := if n < 2 ^ 63 then nearest else 1 }) ∧
        Limit.parse n.repr =
          if n < 2 ^ 63 then .ok nearest else .error (.invalidLimit n.repr) := by
  refine ⟨Json.parse?_repr hlow hhigh, Limit.clamp n, Limit.natCast_clamp n, ?_, ?_,
    Limit.parse_repr_int hlow⟩
  · intro d d' h
    exact ofJson?_limited h (limitOfJson?_integer hhigh)
  · intro d d' h
    exact ofJson?_limited h (limitOfJson?_repr hlow)

/-- The document of a view of people. -/
def crowd : Json := .object [("name", .string "Crowd"), ("model", .string "person")]

/-- The document of that view with a row limit. -/
def crowdOf (limit : Json) : Json :=
  .object [("name", .string "Crowd"), ("limit", limit), ("model", .string "person")]

theorem limited_crowdOf (limit : Json) : Limited limit crowd (crowdOf limit) :=
  @Limited.member limit [("name", .string "Crowd")] [("model", .string "person")] (by decide)

/-- The last integer that all three take for the greatest limit. -/
theorem limits_read_alike_of_last : (-2 ^ 63 : Int) ≤ 2 ^ 63 - 1 ∧ (2 ^ 63 - 1 : Int) < 2 ^ 64 ∧
    ofJson? (crowdOf (.number (.integer 9223372036854775807))) =
      some { name := "Crowd", model := "person", limit := 4294967295 } ∧
    ofJson? (crowdOf (.string "9223372036854775807")) =
      some { name := "Crowd", model := "person", limit := 4294967295 } ∧
    Limit.parse "9223372036854775807" = .ok 4294967295 := by
  obtain ⟨-, nearest, hnearest, hnumber, hnumeral, htyped⟩ :=
    limits_read_alike 9223372036854775807 (by decide) (by decide)
  obtain rfl : nearest = 4294967295 := by omega
  refine ⟨by decide, by decide, ?_, ?_, htyped⟩
  · exact hnumber _ _ (limited_crowdOf _)
  · exact hnumeral _ _ (limited_crowdOf _)

/-- The next integer is read in three ways: as a number it gives the greatest limit, its numeral
    counts as 1 in a view, and typed it is no limit. -/
theorem limits_differ_beyond :
    ofJson? (crowdOf (.number (.integer 9223372036854775808))) =
      some { name := "Crowd", model := "person", limit := 4294967295 } ∧
    ofJson? (crowdOf (.string "9223372036854775808")) =
      some { name := "Crowd", model := "person", limit := 1 } ∧
    Limit.parse "9223372036854775808" = .error (.invalidLimit "9223372036854775808") := by
  exact ⟨by decide +kernel, by decide +kernel, by decide +kernel⟩

end View

end QueryComposer
