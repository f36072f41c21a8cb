import QueryComposer.Settings.Value

/-! # Paths to values of settings

  The name of an entry may be a path, such as `table.name` or `list[2]`: it leads into
  the value of the name that it begins with. A value that is given to a path makes the
  tables and lists on the way where they are not there. Places of a list may be counted
  from its end, but only as far as its beginning.

  Names agree whatever the case of their letters. Where both forms of a letter lie beyond
  ASCII it cannot take part in a path, nor in the name of a setting.

  - `SettingPath.ofKey` reads a path.
  - `SettingValue.assign?` gives a value to a path.
  - `SettingValue.ofEntries?` gives the values of some entries one after another.
-/

namespace QueryComposer

/-- A step of a path. -/
inductive SettingStep where
  /-- To the member of a name. -/
  | member (name : String)
  /-- To the item at a place of a list, which is counted from the end if it is negative. -/
  | place (n : Int)
deriving DecidableEq, Repr

/-- The steps from the table of all settings to a value. -/
abbrev SettingPath := List SettingStep

namespace SettingPath

/-! ## Section 1: Reading -/

/-- Whether a character can be part of a name. -/
def inName (c : Char) : Bool := c.isAlphanum || c = '_' || c = '-' || c = ' '

/-- The text without the spaces and tabs at both ends. -/
def trimBlanks (cs : List Char) : List Char :=
  let trimLeft (cs : List Char) := cs.dropWhile fun c => c = ' ' || c = '\t'
  (trimLeft (trimLeft cs).reverse).reverse

/-- The place that a text between brackets tells: a number of 64 bits without a plus sign,
    with blanks around it. -/
def place? (cs : List Char) : Option Int :=
  let numeral := trimBlanks cs
  if numeral.head? = some '+' then none else Text.integer64? numeral

/-- The steps of the text behind the first name: points with names and brackets with
    places. -/
def stepsBehind? : Nat → List Char → Option SettingPath
  | 0, _ => none
  | _, [] => some []
  | fuel + 1, '.' :: cs =>
    let name := cs.takeWhile inName
    if name.isEmpty then none
    else
      (stepsBehind? fuel (cs.dropWhile inName)).map fun steps =>
        .member (String.ofList name) :: steps
  | fuel + 1, '[' :: cs =>
    match cs.dropWhile (· ≠ ']') with
    | [] => none
    | _ :: rest => do
      let n ← place? (cs.takeWhile (· ≠ ']'))
      return .place n :: (← stepsBehind? fuel rest)
  | _, _ => none

/-- The path that a text tells; none where it tells none. -/
def parse? (cs : List Char) : Option SettingPath :=
  let name := cs.takeWhile inName
  let rest := cs.dropWhile inName
  if name.isEmpty then none
  else (stepsBehind? (rest.length + 1) rest).map fun steps => .member (String.ofList name) :: steps

/-- The path of an entry. A key that tells none is a name as a whole. -/
def ofKey (key : String) : SettingPath :=
  let name := SettingValue.small key
  (parse? name.toList).getD [.member name]

end SettingPath

namespace SettingValue

/-! ## Section 2: Giving values -/

/-- How many items a list has at most. An item takes 96 bytes, and addresses of bytes have
    63 bits. -/
def longestList : Nat := Nat.pow 2 63 / 96

/-- The index of a place in a list of some length, which need not have an item there yet;
    none in front of the beginning and beyond what a list can hold. -/
def indexOf? (length : Nat) : Int → Option Nat
  | .ofNat n => if n < longestList then some n else none
  | .negSucc n => if n < length then some (length - (n + 1)) else none

/-- The item of a list at an index. -/
def item (v : SettingValue) (index : Nat) : SettingValue := (v.items.lookup index).getD nothing

/-- The list with an item at an index. Items before it that are not there are nothing. -/
def setItem (v : SettingValue) (index : Nat) (item : SettingValue) : SettingValue :=
  list (max v.length (index + 1)) ((index, item) :: v.items.filter (·.1 ≠ index))

mutual

/-- The members with a value for a name. A table is joined to the value of the name, and
    any other value takes its place. -/
def join (name : String) (ms : KeyMap SettingValue) : SettingValue → KeyMap SettingValue
  | table given => ms.insert name (joinAll ((ms.find? name).getD (table [])) given)
  | v => ms.insert name v

/-- The value with the values of some members, in a table unless there are none. -/
def joinAll (v : SettingValue) : List (String × SettingValue) → SettingValue
  | [] => v
  | (name, given) :: rest => joinAll (table (join (small name) v.members given)) rest

end

/-- What a value becomes when `v` is given to a path in it; none where the path leads to a
    place that a list cannot have. -/
def assign? (v : SettingValue) : SettingPath → SettingValue → Option SettingValue
  | [], _ => some v
  | [.member name], target => some (table (join name target.members v))
  | .member name :: steps, target => do
    let inner ← assign? v steps ((target.members.find? name).getD nothing)
    return table (target.members.insert name inner)
  | .place n :: steps, target => do
    let index ← indexOf? target.length n
    return target.setItem index (← assign? v steps (target.item index))

/-- The table of some entries, each of which is given to its path. -/
def ofEntries? (entries : List (String × SettingValue)) : Option SettingValue :=
  entries.foldlM (fun whole (key, v) => assign? v (SettingPath.ofKey key) whole) (table [])

end SettingValue

end QueryComposer
