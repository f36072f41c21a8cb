import QueryComposer.Json.Record
import QueryComposer.Query.Limit
import QueryComposer.Text.Cut

/-! # Settings

  What a session is set up with: where its pages live, where its schema is, how many
  rows a query fetches unless it says otherwise, and what is logged.
-/

namespace QueryComposer

/-- The settings of a session. -/
structure Settings where
  /-- The origin of the pages, which every link begins with. -/
  origin : String := "http://localhost:8000"
  /-- Where the document of the schema is. -/
  schemaPath : Option String := none
  /-- The row limit of a query that sets none. -/
  defaultLimit : Nat := Limit.standard
  /-- Which events are logged. -/
  logFilter : String := "info,ddb_query=debug"
deriving DecidableEq, Repr, Inhabited

/-- An origin without the slashes at its end. -/
def trimOrigin (origin : String) : String := String.ofList (Text.dropTrailing '/' origin.toList)

namespace Settings

/-- The origin as links begin with it. -/
def linkOrigin (s : Settings) : String := trimOrigin s.origin

/-- The members of a record of settings. -/
def members : List String := ["origin", "schema_path", "default_limit", "log_filter"]

/-- The settings that a document describes. -/
def ofJson? (v : Json) : Option Settings :=
  let usual : Settings := {}
  match v.slots? members with
  | some [origin, schemaPath, defaultLimit, logFilter] => do
    let origin ← origin.withDefault usual.origin Json.text?
    let schemaPath ← schemaPath.optional Json.text?
    let defaultLimit ← defaultLimit.withDefault usual.defaultLimit (Json.natBelow? (Nat.pow 2 32))
    let logFilter ← logFilter.withDefault usual.logFilter Json.text?
    return { origin, schemaPath, defaultLimit, logFilter }
  | _ => none

end Settings

end QueryComposer
