/-! # Tables by name

  A table is a list of names with their entries, each name once, in the order of
  the names. So two tables with the same entries are equal, and the order in
  which a table is listed does not depend on how it came about.

  - `KeyMap.Ordered` says that the names increase.
  - `KeyMap.insert` keeps a table ordered.
-/

namespace QueryComposer

/-- A table from names to entries. -/
abbrev KeyMap (α : Type) := List (String × α)

namespace KeyMap

variable {α : Type}

/-- The names increase from entry to entry. -/
def Ordered (m : KeyMap α) : Prop := m.Pairwise fun a b => a.1 < b.1

/-- The entry of a name. -/
def find? (m : KeyMap α) (name : String) : Option α := m.lookup name

/-- Whether there is an entry of the name. -/
def has (m : KeyMap α) (name : String) : Bool := (m.find? name).isSome

/-- The names, in their order. -/
def names (m : KeyMap α) : List String := m.map (·.1)

/-- The table with an entry put in, in the place of any entry of the same name. -/
def insert (m : KeyMap α) (name : String) (a : α) : KeyMap α :=
  match m with
  | [] => [(name, a)]
  | (name', a') :: m =>
    if name < name' then (name, a) :: (name', a') :: m
    else if name = name' then (name, a) :: m
    else (name', a') :: insert m name a

/-- The table of some entries; of entries with one name the last counts. -/
def ofEntries (entries : List (String × α)) : KeyMap α :=
  entries.foldl (fun m (name, a) => m.insert name a) []

end KeyMap

end QueryComposer
