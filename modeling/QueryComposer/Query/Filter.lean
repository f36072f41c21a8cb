import QueryComposer.Schema.Resolve

/-! # Filters

  A filter compares the field at the end of a path with a value, by a lookup that
  the type of the field offers. The value is kept as it was typed. Whether it is
  valid is judged elsewhere; the message that comes of it is kept with the filter
  until the next judgement.
-/

namespace QueryComposer

/-- A condition on the rows. -/
structure Filter where
  /-- The path from the model of the query. -/
  path : String
  /-- The name of the lookup. -/
  lookup : String
  /-- The value as typed. -/
  value : String
  /-- What is wrong with the value. -/
  message : Option String := none
deriving DecidableEq, Repr, Inhabited

namespace Filter

/-- The name of the filter in links: path and lookup. -/
def key (f : Filter) : String := f.path ++ pathSeparator ++ f.lookup

/-- Whether the value was found to be wrong. -/
def hasError (f : Filter) : Bool := f.message.isSome

end Filter

/-! ## Section 1: What the schema allows -/

namespace Schema

/-- The type of a field that filters may compare. -/
def filterType (s : Schema) (model path : String) : Except QueryError FieldType := do
  let f ← s.field model path
  if f.isFilterable then s.typeOf path f else throw (.notFilterable path)

/-- The filter that a path starts with: the default lookup of its type and the value
    that this lookup starts with. -/
def newFilter (s : Schema) (model path : String) : Except QueryError Filter := do
  let t ← s.filterType model path
  match t.defaultLookup? with
  | some (name, lookup) => return { path, lookup := name, value := lookup.initial }
  | none => throw (.notFilterable path)

/-- Fails unless the type of the field offers the lookup. -/
def checkLookup (s : Schema) (model path lookup : String) : Except QueryError Unit := do
  let t ← s.filterType model path
  if t.hasLookup lookup then return () else throw (.unknownLookup path lookup)

end Schema

/-! ## Section 2: Lists of filters -/

/-- The filters of a query, all of which a row has to pass. -/
abbrev Filters := List Filter

namespace Filters

/-- Fails for a position that no filter has. -/
def get (fs : Filters) (i : Nat) : Except QueryError Filter :=
  match fs[i]? with
  | some f => .ok f
  | none => .error (.indexOutOfRange .filters i fs.length)

/-- Appends the filter that a path starts with. -/
def add (fs : Filters) (s : Schema) (model path : String) : Except QueryError Filters := do
  return fs ++ [← s.newFilter model path]

/-- Removes the filter at a position. -/
def remove (fs : Filters) (i : Nat) : Except QueryError Filters := do
  let _ ← fs.get i
  return fs.eraseIdx i

/-- Replaces the value of the filter at a position. -/
def setValue (fs : Filters) (i : Nat) (value : String) : Except QueryError Filters := do
  let f ← fs.get i
  return fs.set i { f with value }

/-- Replaces the lookup of the filter at a position, whatever its type offers. -/
def setLookup (fs : Filters) (i : Nat) (lookup : String) : Except QueryError Filters := do
  let f ← fs.get i
  return fs.set i { f with lookup }

/-- Gives each filter the message of its position; filters beyond the messages lose theirs. -/
def setMessages (fs : Filters) (messages : List (Option String)) : Filters :=
  fs.mapIdx fun i f => { f with message := messages[i]?.join }

end Filters

end QueryComposer
