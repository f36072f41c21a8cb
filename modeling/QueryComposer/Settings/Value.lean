import QueryComposer.Binary64.Extended
import QueryComposer.Json.Basic
import QueryComposer.KeyMap
import QueryComposer.Toml.Basic

/-! # Values of settings

  Files and the environment give values whose form need not be the one that the
  setting has: a number may stand for a text and a text for a number. A value is
  converted when it is known which setting it is for. No setting is a list or a table,
  yet a file may hold them beside the settings.

  - `SettingValue.ofWord` types the text of a variable.
  - `SettingValue.ofJson` and `SettingValue.ofToml` take over what a document holds.
  - `SettingValue.text?` and `SettingValue.limit?` convert a value.
-/

namespace QueryComposer

/-- A value before it is known which setting it is for. -/
inductive SettingValue where
  /-- No value. -/
  | nothing
  /-- Yes or no. -/
  | truth (b : Bool)
  /-- An integer of 64 bits. -/
  | whole (n : Int)
  /-- Any other number. -/
  | real (x : Extended)
  /-- A text. -/
  | text (s : String)
  /-- A list of some length, with the items that are something by their indices. -/
  | list (length : Nat) (items : List (Nat × SettingValue))
  /-- A table by names. -/
  | table (members : List (String × SettingValue))
deriving Repr, Inhabited

namespace SettingValue

/-- The small form of a letter, if that is one of ASCII: the sign of the kelvin has a
    small form there, too. -/
def smallLetter (c : Char) : Char := if c = '\u212A' then 'k' else c.toLower

/-- The text with small letters, wherever these are letters of ASCII. -/
def small (s : String) : String := String.ofList (s.toList.map smallLetter)

/-- The value that the text of a variable stands for. Letters of either case form the
    two words of truth. -/
def ofWord (word : String) : SettingValue :=
  match small word with
  | "true" => .truth true
  | "false" => .truth false
  | _ =>
    match Text.integer64? word.toList with
    | some n => .whole n
    | none =>
      match Extended.ofText? word.toList with
      | some x => .real x
      | none => .text word

/-- The value of a number in a document. An integer beyond 63 bits is a double. -/
def ofNumber : Number → SettingValue
  | .integer n =>
    if n < (Nat.pow 2 63 : Int) then .whole n
    else .real (Extended.ofDecimal false ⟨n.toNat, 0⟩)
  | .real x => .real (.finite x)

mutual

/-- The value of a JSON value of which all can be read. -/
def ofJson : Json → SettingValue
  | .null => .nothing
  | .bool b => .truth b
  | .number n => ofNumber n
  | .string s => .text s
  | .array items => .list items.length (ofItems 0 items)
  | .object members => .table (ofMembers members)
  | .unreadable => .nothing

/-- The values of the items of an array from an index on. -/
def ofItems : Nat → List Json → List (Nat × SettingValue)
  | _, [] => []
  | index, v :: vs => (index, ofJson v) :: ofItems (index + 1) vs

/-- The values of the members of an object. -/
def ofMembers : List (String × Json) → List (String × SettingValue)
  | [] => []
  | (name, v) :: ms => (name, ofJson v) :: ofMembers ms

end

/-- The value of a moment, which is its text. -/
def ofMoment (m : Toml.Moment) : SettingValue := .text (String.ofList m.text)

/-- The value of a table whose members have the values `read`: a text where the table
    stands for a moment. -/
def ofTable (members : Toml.Members) (read : Except Toml.Fault (List (String × SettingValue))) :
    Except Toml.Fault SettingValue :=
  if members.isMoment then members.moment.map ofMoment else read.map .table

mutual

/-- The value of a TOML value, or the first fault in it. -/
def ofToml : Toml.Value → Except Toml.Fault SettingValue
  | .truth b => .ok (.truth b)
  | .integer n => .ok (.whole n)
  | .float x => .ok (.real x)
  | .string s _ => .ok (.text s)
  | .moment m => .ok (ofMoment m)
  | .list items => (ofTomlItems 0 items).map (.list items.length)
  | .table _ members => ofTable members (ofTomlMembers members)
  | .series tables => (ofTomlSeries tables).map (.list tables.length)

/-- The values of the items of a list from an index on. -/
def ofTomlItems : Nat → List Toml.Value → Except Toml.Fault (List (Nat × SettingValue))
  | _, [] => .ok []
  | index, v :: vs => do return (index, ← ofToml v) :: (← ofTomlItems (index + 1) vs)

/-- The values of the members of a table. -/
def ofTomlMembers : List (String × Toml.Value) → Except Toml.Fault (List (String × SettingValue))
  | [] => .ok []
  | (name, v) :: ms => do return (name, ← ofToml v) :: (← ofTomlMembers ms)

/-- The values of tables that come one after another, the last one first. -/
def ofTomlSeries :
    List (List (String × Toml.Value)) → Except Toml.Fault (List (Nat × SettingValue))
  | [] => .ok []
  | members :: before => do
    let items ← ofTomlSeries before
    return items ++ [(before.length, ← ofTable members (ofTomlMembers members))]

end

/-- The members of a table; nothing else has any. -/
def members : SettingValue → KeyMap SettingValue
  | table ms => ms
  | _ => []

/-- The length of a list; nothing else has one. -/
def length : SettingValue → Nat
  | list n _ => n
  | _ => 0

/-- The items of a list that are something, by their indices. -/
def items : SettingValue → List (Nat × SettingValue)
  | list _ vs => vs
  | _ => []

/-- The decimal numeral of an integer. -/
def numeral (n : Int) : List Char :=
  if n < 0 then '-' :: Text.decimal n.natAbs else Text.decimal n.natAbs

/-- The value as a text. -/
def text? : SettingValue → Option String
  | truth true => some "true"
  | truth false => some "false"
  | whole n => some (String.ofList (numeral n))
  | real x => some (String.ofList x.plainText)
  | text s => some s
  | nothing => none
  | list _ _ => none
  | table _ => none

/-- The number that a text stands for, a word for yes or no counting as 1 or 0. -/
def naturalOfText? (s : String) : Option Nat :=
  match small s with
  | "true" | "on" | "yes" => some 1
  | "false" | "off" | "no" => some 0
  | _ => Text.unsignedBelow? (Nat.pow 2 64) s.toList

/-- The value as a natural of 64 bits; a fraction is rounded and a number out of range
    moves to the nearer end. -/
def natural? : SettingValue → Option Nat
  | truth b => some b.toNat
  | whole n => if n < 0 then none else some n.toNat
  | real x => some x.nearestNatural
  | text s => naturalOfText? s
  | nothing => none
  | list _ _ => none
  | table _ => none

/-- The value as a row limit, which takes no more than 32 bits. -/
def limit? (v : SettingValue) : Option Nat := v.natural?.filter (· < Nat.pow 2 32)

end SettingValue

end QueryComposer
