import QueryComposer.Query.Basic

/-! # Views

  A view is a query kept under a name: its three texts and its row limit. Opening
  a view reads the texts against the schema of the day.
-/

namespace QueryComposer

/-- A query kept under a name. -/
structure View where
  /-- The name of the view. -/
  name : String
  /-- What the view is for. -/
  description : String := ""
  /-- Whether everybody may see it. -/
  isPublic : Bool := false
  /-- The model. -/
  model : String
  /-- The fields segment. -/
  fields : String := ""
  /-- The filter segment. -/
  query : String := ""
  /-- The row limit. -/
  limit : Nat := Limit.standard
deriving DecidableEq, Repr, Inhabited

namespace View

/-- The query as a view of a name, for its owner alone and without description. -/
def ofQuery (q : Query) (name : String) : View :=
  let p := q.parts
  { name, model := p.model, fields := p.fields, query := p.query, limit := q.limit }

/-- The view with a description. -/
def withDescription (v : View) (description : String) : View := { v with description }

/-- The view for everybody. -/
def published (v : View) : View := { v with isPublic := true }

/-- The texts of the query. -/
def parts (v : View) : Parts := { model := v.model, fields := v.fields, query := v.query }

/-- The text of the query in links: the filter segment and behind it the row limit. -/
def linkQuery (v : View) : String :=
  v.query ++ (if v.query.isEmpty then "" else "&") ++ "limit=" ++ v.limit.repr

/-- The link to the view as a page, from the root of the browser. -/
def link (v : View) : String :=
  "/query/" ++ v.model ++ "/" ++ v.fields ++ ".html?" ++ v.linkQuery

/-- The query that the view describes on a schema. -/
def toQuery (s : Schema) (v : View) : Except QueryError Query := Query.ofParts s v.parts v.limit

end View

end QueryComposer
