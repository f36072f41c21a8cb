import QueryComposer.Binary64.Basic

/-! # JSON values

  A document is read into a `Json` value and a value is written as a document.
  Objects keep their members in the order of the text, repeated names included,
  since it is the reader of an object who decides what a repetition means.

  - `Json.isReadable` says that no part of a value is beyond reading.
  - `Json.settled?` is the value by itself: of members with one name the last
    counts, and members stand in the order of their names.
-/

namespace QueryComposer

/-- A number in a document: an integer of 64 bits, signed or not, or a double. -/
inductive Number where
  /-- An integer from `-2^63` up to `2^64 - 1`. -/
  | integer (n : Int)
  /-- Any other number, and zero written with a minus sign. -/
  | real (x : Binary64)
deriving DecidableEq, Repr, Inhabited

namespace Number

/-- The integer of 64 bits that a number counts as. An integer beyond those goes by the double
    nearest to it. -/
def integer64 : Number → Int
  | integer n =>
    if n < (Nat.pow 2 63 : Int) then n
    else ((Binary64.round false n.toNat 1).map Binary64.integer64).getD (Nat.pow 2 63 - 1)
  | real x => x.integer64

end Number

/-- A JSON value. -/
inductive Json where
  | null
  | bool (b : Bool)
  | number (n : Number)
  | string (s : String)
  | array (items : List Json)
  | object (members : List (String × Json))
  /-- Text that obeys the grammar and yet has no value: a string with half a
      surrogate pair, a number beyond the doubles, or a container nested too
      deeply. It may stand where nobody reads it. -/
  | unreadable
deriving Repr, Inhabited

namespace Json

/-- The integer as a value. -/
def ofNat (n : Nat) : Json := .number (.integer n)

/-- The value, or `null` where there is none. -/
def ofOption {α : Type} (write : α → Json) : Option α → Json
  | none => .null
  | some a => write a

/-- The text of a string. -/
def text? : Json → Option String
  | .string s => some s
  | _ => none

/-- The truth value. -/
def bool? : Json → Option Bool
  | .bool b => some b
  | _ => none

/-- A natural number below a bound, written as an integer. -/
def natBelow? (bound : Nat) : Json → Option Nat
  | .number (.integer (.ofNat n)) => if n < bound then some n else none
  | _ => none

/-- The items of an array, each read by `read`. -/
def list? {α : Type} (read : Json → Option α) : Json → Option (List α)
  | .array items => items.mapM read
  | _ => none

/-- Nothing for `null`, and otherwise what `read` makes of the value. -/
def nullable? {α : Type} (read : Json → Option α) : Json → Option (Option α)
  | .null => some none
  | v => (read v).map some

/-- Puts a member in its place among members in the order of their names; a member
    of the same name gives way to it. -/
def putMember (name : String) (v : Json) : List (String × Json) → List (String × Json)
  | [] => [(name, v)]
  | (name', v') :: ms =>
    if name < name' then (name, v) :: (name', v') :: ms
    else if name = name' then (name, v) :: ms
    else (name', v') :: putMember name v ms

mutual

/-- Whether every part of the value can be read. -/
def isReadable : Json → Bool
  | .unreadable => false
  | .array items => itemsReadable items
  | .object members => membersReadable members
  | _ => true

/-- Whether every item can be read. -/
def itemsReadable : List Json → Bool
  | [] => true
  | v :: vs => isReadable v && itemsReadable vs

/-- Whether the value of every member can be read. -/
def membersReadable : List (String × Json) → Bool
  | [] => true
  | (_, v) :: ms => isReadable v && membersReadable ms

end

mutual

/-- The value by itself, where all of it can be read: the last of the members with
    one name, and members in the order of their names. -/
def settled? : Json → Option Json
  | .unreadable => none
  | .array items => (settledItems? items).map .array
  | .object members => (settledMembers? members []).map .object
  | v => some v

/-- The items by themselves. -/
def settledItems? : List Json → Option (List Json)
  | [] => some []
  | v :: vs => do return (← settled? v) :: (← settledItems? vs)

/-- The members by themselves, put one after another among those already placed. -/
def settledMembers? : List (String × Json) → List (String × Json) → Option (List (String × Json))
  | [], placed => some placed
  | (name, v) :: ms, placed => do settledMembers? ms (putMember name (← settled? v) placed)

end

end Json

end QueryComposer
