import QueryComposer.Query.Command
import QueryComposer.Query.View
import QueryComposer.Schema.Document

/-! # Documents of queries

  Queries, their parts, commands and views as documents. Each is a record
  (`Json.slots?`) with the members listed beside it; a command is an object with
  its name among its members, or an array that begins with the name.
-/

namespace QueryComposer

/-! ## Section 1: Queries -/

namespace Column

/-- The members of a column. -/
def members : List String := ["path", "sort", "priority"]

/-- The column that a document describes. -/
def ofJson? (v : Json) : Option Column :=
  match v.slots? members with
  | some [path, sort, priority] => do
    let path ← path.required Json.text?
    let sort ← sort.maybe Direction.ofJson?
    let priority ← priority.maybe (Json.natBelow? (Nat.pow 2 64))
    return { path, sort, priority }
  | _ => none

/-- The column as a document describes it. -/
def toJson (c : Column) : Json :=
  .object
    [("path", .string c.path),
     ("sort", .ofOption Direction.toJson c.sort),
     ("priority", .ofOption Json.ofNat c.priority)]

end Column

namespace Filter

/-- The members of a filter. -/
def members : List String := ["path", "lookup", "value", "errorMessage"]

/-- The filter that a document describes. -/
def ofJson? (v : Json) : Option Filter :=
  match v.slots? members with
  | some [path, lookup, value, message] => do
    let path ← path.required Json.text?
    let lookup ← lookup.required Json.text?
    let value ← value.required Json.text?
    let message ← message.optional Json.text?
    return { path, lookup, value, message }
  | _ => none

/-- The filter as a document describes it. -/
def toJson (f : Filter) : Json :=
  .object
    [("path", .string f.path),
     ("lookup", .string f.lookup),
     ("value", .string f.value),
     ("errorMessage", .ofOption .string f.message)]

end Filter

namespace Row

/-- The row that a document holds: any cells that can be read. -/
def ofJson? : Json → Option Row := Json.list? Json.settled?

/-- The row as a document holds it. -/
def toJson (row : Row) : Json := .array row

end Row

/-- The row limit that a document holds: a number of 32 bits. -/
def Limit.ofJson? : Json → Option Nat := Json.natBelow? (Nat.pow 2 32)

namespace Query

/-- The members of a query. -/
def members : List String := ["model", "fields", "filters", "data", "limit"]

/-- The query that a document describes. -/
def ofJson? (v : Json) : Option Query :=
  match v.slots? members with
  | some [model, columns, filters, rows, limit] => do
    let model ← model.required Json.text?
    let columns ← columns.required (Json.list? Column.ofJson?)
    let filters ← filters.required (Json.list? Filter.ofJson?)
    let rows ← rows.withDefault [] (Json.list? Row.ofJson?)
    let limit ← limit.required Limit.ofJson?
    return { model, columns, filters, rows, limit }
  | _ => none

/-- The query as a document describes it. -/
def toJson (q : Query) : Json :=
  .object
    [("model", .string q.model),
     ("fields", .array (q.columns.map Column.toJson)),
     ("filters", .array (q.filters.map Filter.toJson)),
     ("data", .array (q.rows.map Row.toJson)),
     ("limit", .ofNat q.limit)]

end Query

namespace Parts

/-- The members of the texts of a query. -/
def members : List String := ["model", "fields", "query"]

/-- The texts that a document holds. -/
def ofJson? (v : Json) : Option Parts :=
  match v.slots? members with
  | some [model, fields, query] => do
    let model ← model.required Json.text?
    let fields ← fields.required Json.text?
    let query ← query.required Json.text?
    return { model, fields, query }
  | _ => none

/-- The texts as a document holds them. -/
def toJson (p : Parts) : Json :=
  .object [("model", .string p.model), ("fields", .string p.fields), ("query", .string p.query)]

end Parts

/-! ## Section 2: Commands -/

namespace Command

/-- The members of the command of a name. -/
def members? : String → Option (List String)
  | "set_model" => some ["model"]
  | "add_field" => some ["path"]
  | "add_field_with_default_sort" => some ["path"]
  | "remove_field" => some ["index"]
  | "toggle_sort" => some ["index"]
  | "add_filter" => some ["path"]
  | "remove_filter" => some ["index"]
  | "set_filter_value" => some ["index", "value"]
  | "set_filter_lookup" => some ["index", "lookup"]
  | "apply_default_filters" => some []
  | "set_filter_errors" => some ["errors"]
  | "set_data" => some ["rows"]
  | "set_limit" => some ["raw"]
  | _ => none

/-- A position in a document: a number of 64 bits. -/
def index? : Json → Option Nat := Json.natBelow? (Nat.pow 2 64)

/-- The command of a name with its members. -/
def ofSlots? (name : String) (slots : List Json.Slot) : Option Command :=
  match name, slots with
  | "set_model", [model] => do return setModel (← model.required Json.text?)
  | "add_field", [path] => do return addField (← path.required Json.text?)
  | "add_field_with_default_sort", [path] => do
    return addFieldWithDefaultSort (← path.required Json.text?)
  | "remove_field", [i] => do return removeField (← i.required index?)
  | "toggle_sort", [i] => do return toggleSort (← i.required index?)
  | "add_filter", [path] => do return addFilter (← path.required Json.text?)
  | "remove_filter", [i] => do return removeFilter (← i.required index?)
  | "set_filter_value", [i, value] => do
    return setFilterValue (← i.required index?) (← value.required Json.text?)
  | "set_filter_lookup", [i, lookup] => do
    return setFilterLookup (← i.required index?) (← lookup.required Json.text?)
  | "apply_default_filters", [] => some applyDefaultFilters
  | "set_filter_errors", [messages] => do
    return setFilterErrors (← messages.required (Json.list? (Json.nullable? Json.text?)))
  | "set_data", [rows] => do return setData (← rows.required (Json.list? Row.ofJson?))
  | "set_limit", [raw] => do return setLimit (← raw.required Json.text?)
  | _, _ => none

/-- The member that names the command. -/
def tag : String := "command"

/-- The name of a command and its other members. -/
def untag? : Json → Option (String × Json)
  | .object members => do
    let name ← (← Json.memberSlot? members tag).required Json.text?
    return (name, .object (members.filter fun m => m.1 ≠ tag))
  | .array (.string name :: items) => some (name, .array items)
  | _ => none

/-- The command that a document describes, all of which has to be readable. -/
def ofJson? (v : Json) : Option Command :=
  if v.isReadable then do
    let (name, rest) ← untag? v
    ofSlots? name (← rest.slots? (← members? name))
  else none

/-- The command as a document describes it. -/
def toJson (c : Command) : Json :=
  let rest : List (String × Json) := match c with
    | setModel model => [("model", .string model)]
    | addField path => [("path", .string path)]
    | addFieldWithDefaultSort path => [("path", .string path)]
    | removeField i => [("index", .ofNat i)]
    | toggleSort i => [("index", .ofNat i)]
    | addFilter path => [("path", .string path)]
    | removeFilter i => [("index", .ofNat i)]
    | setFilterValue i value => [("index", .ofNat i), ("value", .string value)]
    | setFilterLookup i lookup => [("index", .ofNat i), ("lookup", .string lookup)]
    | applyDefaultFilters => []
    | setFilterErrors messages => [("errors", .array (messages.map (.ofOption .string)))]
    | setData rows => [("rows", .array (rows.map Row.toJson))]
    | setLimit raw => [("raw", .string raw)]
  .object ((tag, .string c.name) :: rest)

end Command

/-! ## Section 3: Views -/

namespace View

/-- The row limit of a view, which documents give as a number or as its numeral. A fraction
    is dropped, and what is no number counts as 1. -/
def limitOfJson? (v : Json) : Option Nat :=
  if v.isReadable then
    some <| match v with
      | .number n => Limit.clamp n.integer64
      | .string s => Limit.clamp ((Text.integer64? (Text.trim s.toList)).getD 1)
      | _ => 1
  else none

/-- The members of a view. -/
def members : List String :=
  ["name", "description", "public", "model", "fields", "query", "limit"]

/-- The view that a document describes. -/
def ofJson? (v : Json) : Option View :=
  match v.slots? members with
  | some [name, description, isPublic, model, fields, query, limit] => do
    let name ← name.required Json.text?
    let description ← description.withDefault "" Json.text?
    let isPublic ← isPublic.withDefault false Json.bool?
    let model ← model.required Json.text?
    let fields ← fields.withDefault "" Json.text?
    let query ← query.withDefault "" Json.text?
    let limit ← limit.withDefault Limit.standard limitOfJson?
    return { name, description, isPublic, model, fields, query, limit }
  | _ => none

/-- The view as a document describes it. -/
def toJson (v : View) : Json :=
  .object
    [("name", .string v.name),
     ("description", .string v.description),
     ("public", .bool v.isPublic),
     ("model", .string v.model),
     ("fields", .string v.fields),
     ("query", .string v.query),
     ("limit", .ofNat v.limit)]

end View

end QueryComposer
