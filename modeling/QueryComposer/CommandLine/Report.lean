import QueryComposer.CommandLine.Failure
import QueryComposer.Json.Writer
import QueryComposer.Query.Command
import QueryComposer.Query.Link
import QueryComposer.Query.View
import QueryComposer.Schema.Listing

/-! # Reports

  What the command line tells about a schema and about a query: the fields that
  can be reached from a model, one line each, and the links of a query.

  - `Schema.fieldLines` lists the fields.
  - `LinkRequest.report` carries a query through its operations to its links.
-/

namespace QueryComposer

/-! ## Section 1: Fields -/

namespace Schema

/-- The line of a field in the listing: its path, and the model that it leads to, or
    its type and whether a filter can be put on it. -/
def fieldLine (s : Schema) (e : Entry) : Except QueryError String :=
  match e.field.target with
  | some target => return e.path ++ "\t-> " ++ target
  | none => do
    let t ← s.typeOf e.path e.field
    let mark := if e.field.isFilterable && !t.lookups.isEmpty then "filterable" else "-"
    return e.path ++ "\t" ++ e.field.typeName.getD "?" ++ "\t" ++ mark

/-- The lines of all fields that can be reached from a model through at most `depth`
    relations, unless one of them has an unknown type. -/
def fieldLines (s : Schema) (model : String) (depth : Nat) : Except QueryError (List String) := do
  (← s.walk model depth).mapM s.fieldLine

end Schema

/-! ## Section 2: Links -/

/-- A query with everything that a link to it can be made of. -/
structure LinkReport where
  /-- The three texts of the query. -/
  parts : Parts
  /-- The row limit. -/
  limit : Nat
  /-- The download as comma-separated values. -/
  csv : String
  /-- The download as a document. -/
  json : String
  /-- The link that keeps the query as a view. -/
  save : String
  /-- The link to the page of the query. -/
  view : String
deriving DecidableEq, Repr

namespace LinkReport

/-- The links of a query, on pages of an origin. -/
def ofQuery (origin : String) (s : Schema) (q : Query) : LinkReport :=
  { parts := q.parts
    limit := q.limit
    csv := q.downloadLink origin s .csv
    json := q.downloadLink origin s .json
    save := q.saveLink origin s
    view := (View.ofQuery q "").link }

/-- The report in lines of a name and a value. -/
def lines (r : LinkReport) : List String :=
  [("model", r.parts.model), ("fields", r.parts.fields), ("query", r.parts.query),
   ("limit", r.limit.repr), ("csv", r.csv), ("json", r.json), ("save", r.save),
   ("view", r.view)].map fun (name, value) => name ++ ": " ++ value

/-- The report as text. -/
def text (r : LinkReport) : String := "\n".intercalate r.lines

/-- The report as a document describes it. -/
def toJson (r : LinkReport) : Json :=
  .object
    [("model", .string r.parts.model),
     ("fields", .string r.parts.fields),
     ("query", .string r.parts.query),
     ("limit", .ofNat r.limit),
     ("csv_url", .string r.csv),
     ("json_url", .string r.json),
     ("save_url", .string r.save),
     ("view_link", .string r.view)]

end LinkReport

/-! ## Section 3: From a request to its report -/

/-- What links are asked for: the texts of a query, a row limit as typed, and the
    commands that are to be applied before. -/
structure LinkRequest where
  /-- The texts of the query. -/
  parts : Parts
  /-- The row limit, which goes before one in the texts. -/
  limit : Option String := none
  /-- The commands, in their order. -/
  commands : List Command := []
deriving Repr

/-- The links that a request asks for. A query that sets no row limit gets `defaultLimit`. -/
def LinkRequest.report (s : Schema) (defaultLimit : Nat) (origin : String) (r : LinkRequest) :
    Except Failure LinkReport := do
  let q ← (Query.ofParts s r.parts defaultLimit).mapError (.unparsable r.parts.model)
  let q ← match r.limit with
    | some raw => (q.setLimit raw).mapError .refused
    | none => pure q
  let composer := Composer.withDefaultLimit { schema := s } defaultLimit
  let q ← (composer.run q r.commands).mapError .refused
  return .ofQuery origin s q

end QueryComposer
