import QueryComposer.Json.Basic

/-! # Records in documents

  A record is a value with a fixed list of members. It is written as an object
  with a member of each name, or as an array of the members in their order.
  In an object a known name may stand once and unknown names are passed over;
  an array may end early where all the members left out have a default.
-/

namespace QueryComposer.Json

/-- What a record holds for one of its members. -/
inductive Slot where
  /-- The value given for it. -/
  | given (v : Json)
  /-- An object without a member of the name. -/
  | omitted
  /-- An array that ends before it. -/
  | cutOff

namespace Slot

/-- A member that has to be there. -/
def required {α : Type} (read : Json → Option α) : Slot → Option α
  | .given v => read v
  | .omitted => none
  | .cutOff => none

/-- A member with a default. -/
def withDefault {α : Type} (d : α) (read : Json → Option α) : Slot → Option α
  | .given v => read v
  | .omitted => some d
  | .cutOff => some d

/-- A member that may be `null`, which is also what it is by default. -/
def optional {α : Type} (read : Json → Option α) (slot : Slot) : Option (Option α) :=
  slot.withDefault none (nullable? read)

/-- A member that may be `null` or left out of an object, but not off an array. -/
def maybe {α : Type} (read : Json → Option α) : Slot → Option (Option α)
  | .given v => nullable? read v
  | .omitted => some none
  | .cutOff => none

end Slot

/-- The member of a name among the members of an object; none where it is repeated. -/
def memberSlot? (members : List (String × Json)) (name : String) : Option Slot :=
  match members.filter fun (n, _) => n = name with
  | [] => some .omitted
  | [(_, v)] => some (.given v)
  | _ => none

/-- The items of an array as the members of the given names. -/
def itemSlots? : List String → List Json → Option (List Slot)
  | names, [] => some (names.map fun _ => .cutOff)
  | [], _ :: _ => none
  | _ :: names, v :: vs => (itemSlots? names vs).map (.given v :: ·)

/-- The members of a record, one for each name. -/
def slots? (names : List String) : Json → Option (List Slot)
  | .object members => names.mapM (memberSlot? members)
  | .array items => itemSlots? names items
  | _ => none

/-- One of a few names: the name itself, or an object that gives it with `null`. -/
def variant? : Json → Option String
  | .string s => some s
  | .object [(s, .null)] => some s
  | _ => none

end QueryComposer.Json
