import QueryComposer.Query.Command

/-! # Drafts

  A query can be written down as a list of steps, the way one would describe it.
  Every step keeps to the rules that commands keep to. The first step that fails
  decides the outcome, and the steps after it are passed over.
-/

namespace QueryComposer

/-- A step in the description of a query. -/
inductive DraftStep where
  /-- Append an unsorted column. -/
  | field (path : String)
  /-- Append some unsorted columns. -/
  | fields (paths : List String)
  /-- Append a column that is sorted as its type is by default. -/
  | defaultSortedField (path : String)
  /-- Append a column and make it the first key of the order. -/
  | sortBy (path : String) (direction : Direction)
  /-- Append a filter with a lookup and a value. -/
  | filter (path lookup value : String)
  /-- Append the filters that the model is opened with. -/
  | defaultFilters
  /-- Set the row limit as typed. -/
  | limit (raw : String)
  /-- Any command. -/
  | command (c : Command)
deriving Repr, Inhabited

/-- A query in the making. -/
structure Draft where
  /-- What the steps are understood against. -/
  composer : Composer
  /-- The query so far, or what the first failing step failed with. -/
  outcome : Except QueryError Query

namespace Draft

/-- A draft of a query on a model. -/
def on (s : Schema) (model : String) : Draft :=
  let composer : Composer := { schema := s }
  { composer, outcome := composer.initial model }

/-- The draft after one more command. -/
def command (d : Draft) (c : Command) : Draft :=
  { d with outcome := do d.composer.apply (← d.outcome) c }

/-- The draft with one more unsorted column. -/
def field (d : Draft) (path : String) : Draft := d.command (.addField path)

/-- The draft with one more column, which is the first key of the order. -/
def sortBy (d : Draft) (path : String) (direction : Direction) : Draft :=
  let added := d.field path
  { added with
    outcome := do
      let q ← added.outcome
      return { q with columns := ← q.columns.sortTo (q.columns.length - 1) (some direction) } }

/-- The draft with one more filter. -/
def filter (d : Draft) (path lookup value : String) : Draft :=
  let added := d.command (.addFilter path)
  match added.outcome with
  | .error _ => added
  | .ok q =>
    let last := q.filters.length - 1
    (added.command (.setFilterLookup last lookup)).command (.setFilterValue last value)

/-- The draft after one more step. -/
def step (d : Draft) : DraftStep → Draft
  | .field path => d.field path
  | .fields paths => paths.foldl field d
  | .defaultSortedField path => d.command (.addFieldWithDefaultSort path)
  | .sortBy path direction => d.sortBy path direction
  | .filter path lookup value => d.filter path lookup value
  | .defaultFilters => d.command .applyDefaultFilters
  | .limit raw => d.command (.setLimit raw)
  | .command c => d.command c

/-- The query that some steps describe, or what the first failing one failed with. -/
def build (s : Schema) (model : String) (steps : List DraftStep) : Except QueryError Query :=
  (steps.foldl step (on s model)).outcome

end Draft

end QueryComposer
