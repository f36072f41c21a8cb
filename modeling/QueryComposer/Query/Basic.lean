import QueryComposer.Query.Segment

/-! # Queries

  A query is a value: the model, the columns with their sorts, the filters, the
  rows fetched last and the row limit. It is never changed in place; a change is a
  patch that names the parts to be replaced.

  - `Query.merge` replaces the parts that a patch names.
  - `Query.validate` checks that rows and priorities fit the columns.
  - `Query.ofParts` and `Query.parts` lead from and to the texts that identify a
    query in links.
-/

namespace QueryComposer

/-! ## Section 1: Queries and patches -/

/-- A query under construction. -/
structure Query where
  /-- The model that is asked about. -/
  model : String
  /-- The columns of the result. -/
  columns : Columns
  /-- The conditions on the rows. -/
  filters : Filters
  /-- The rows fetched last, one cell for each column. -/
  rows : List Row := []
  /-- How many rows are fetched at most. -/
  limit : Nat
deriving Repr, Inhabited

/-- The parts of a query that a change replaces. -/
structure Patch where
  /-- Another model. -/
  model : Option String := none
  /-- Other columns. -/
  columns : Option Columns := none
  /-- Other filters. -/
  filters : Option Filters := none
  /-- Other rows. -/
  rows : Option (List Row) := none
  /-- Another row limit. -/
  limit : Option Nat := none
deriving Repr, Inhabited

/-- Whether the patch replaces nothing. -/
def Patch.isEmpty (p : Patch) : Bool :=
  p.model.isNone && p.columns.isNone && p.filters.isNone && p.rows.isNone && p.limit.isNone

namespace Query

/-- A query on a model that has nothing but a row limit, which is at least 1. -/
def empty (model : String) (limit : Nat) : Query :=
  { model, columns := [], filters := [], limit := max limit 1 }

/-- The query with the parts of a patch in place of its own. -/
def merge (q : Query) (p : Patch) : Query :=
  { model := p.model.getD q.model
    columns := p.columns.getD q.columns
    filters := p.filters.getD q.filters
    rows := p.rows.getD q.rows
    limit := p.limit.getD q.limit }

/-- The query with the row limit that a user typed. -/
def setLimit (q : Query) (raw : String) : Except QueryError Query := do
  return { q with limit := ← Limit.parse raw }

/-- Whether there are columns. -/
def hasColumns (q : Query) : Bool := !q.columns.isEmpty

/-- Whether there are filters. -/
def hasFilters (q : Query) : Bool := !q.filters.isEmpty

/-- Whether any column is sorted. -/
def hasSort (q : Query) : Bool := q.columns.any Column.isSorted

/-- Whether so many rows are as many as the limit allows, so that there may be more. -/
def limitReached (q : Query) (shown : Nat) : Bool := q.limit ≤ shown

/-- Fails unless every row has one cell for each column and the priorities are dense. -/
def validate (q : Query) : Except QueryError Unit := do
  q.columns.checkRows q.rows
  if q.columns.isDense then return () else throw (.malformedFields q.columns.segment)

end Query

/-! ## Section 2: The texts of a query -/

/-- The three texts that identify a query. -/
structure Parts where
  /-- The model. -/
  model : String
  /-- The fields segment. -/
  fields : String
  /-- The filter segment. -/
  query : String
deriving DecidableEq, Repr, Inhabited

/-- The texts in one line of form-encoded pairs. -/
def Parts.form (p : Parts) : String :=
  Form.encode [("model", p.model), ("fields", p.fields), ("query", p.query)]

namespace Query

/-- The texts of a query. -/
def parts (q : Query) : Parts :=
  { model := q.model, fields := q.columns.segment, query := q.filters.segment }

/-- The query that the texts describe. A row limit among the filters goes before the
    one given. -/
def ofParts (s : Schema) (p : Parts) (limit : Nat) : Except QueryError Query := do
  let _ ← s.model p.model
  let columns ← Columns.ofSegment s p.model p.fields
  let parsed ← Filters.ofSegment s p.model p.query
  return { empty p.model (parsed.limit.getD limit) with columns, filters := parsed.filters }

end Query

end QueryComposer
