import QueryComposer.Query.Basic

/-! # Commands

  Everything that a user can do to a query is a command. A composer holds the
  schema; it turns a command on a query into a patch, or says why it cannot.
  A command that fails changes nothing.

  - `Composer.patch` is the meaning of each command.
  - `Composer.apply` and `Composer.run` apply one command and a list of commands.
-/

namespace QueryComposer

/-- Something to be done to a query. -/
inductive Command where
  /-- Go over to another model, with nothing but the usual row limit. -/
  | setModel (model : String)
  /-- Append an unsorted column. -/
  | addField (path : String)
  /-- Append a column that is sorted as its type is by default. -/
  | addFieldWithDefaultSort (path : String)
  /-- Remove a column and its cells. -/
  | removeField (index : Nat)
  /-- Take the sort of a column one step further. -/
  | toggleSort (index : Nat)
  /-- Append the filter that a path starts with. -/
  | addFilter (path : String)
  /-- Remove a filter. -/
  | removeFilter (index : Nat)
  /-- Replace the value of a filter. -/
  | setFilterValue (index : Nat) (value : String)
  /-- Replace the lookup of a filter by another one of its type. -/
  | setFilterLookup (index : Nat) (lookup : String)
  /-- Append the filters that the model is opened with. -/
  | applyDefaultFilters
  /-- Note what is wrong with the value of each filter. -/
  | setFilterErrors (messages : List (Option String))
  /-- Take over the rows that were fetched. -/
  | setData (rows : List Row)
  /-- Set the row limit as typed. -/
  | setLimit (raw : String)
deriving Repr, Inhabited

/-- The name of a command. -/
def Command.name : Command → String
  | setModel _ => "set_model"
  | addField _ => "add_field"
  | addFieldWithDefaultSort _ => "add_field_with_default_sort"
  | removeField _ => "remove_field"
  | toggleSort _ => "toggle_sort"
  | addFilter _ => "add_filter"
  | removeFilter _ => "remove_filter"
  | setFilterValue .. => "set_filter_value"
  | setFilterLookup .. => "set_filter_lookup"
  | applyDefaultFilters => "apply_default_filters"
  | setFilterErrors _ => "set_filter_errors"
  | setData _ => "set_data"
  | setLimit _ => "set_limit"

/-- What commands are understood against. -/
structure Composer where
  /-- The schema. -/
  schema : Schema
  /-- The row limit of a query on a model just chosen. -/
  defaultLimit : Nat := Limit.standard
deriving Repr, Inhabited

namespace Composer

/-- The composer with another row limit to begin with, which is at least 1. -/
def withDefaultLimit (c : Composer) (limit : Nat) : Composer :=
  { c with defaultLimit := max limit 1 }

/-- The query that a model starts with. -/
def initial (c : Composer) (model : String) : Except QueryError Query := do
  let _ ← c.schema.model model
  return .empty model c.defaultLimit

/-- What a command changes in a query. -/
def patch (c : Composer) (q : Query) : Command → Except QueryError Patch
  | .setModel model => do
    let _ ← c.schema.model model
    return { model := some model, columns := some [], filters := some [], rows := some []
             limit := some c.defaultLimit }
  | .addField path => do
    let _ ← c.schema.column q.model path
    return { columns := some (q.columns.add path), rows := some (q.rows.map Row.extend) }
  | .addFieldWithDefaultSort path => do
    let f ← c.schema.column q.model path
    let t ← c.schema.typeOf path f
    let columns ← (q.columns.add path).sortTo q.columns.length t.defaultSort
    return { columns := some columns, rows := some (q.rows.map Row.extend) }
  | .removeField i => do
    let columns ← q.columns.remove i
    return { columns := some columns, rows := some (q.rows.map (Row.removeCell i)) }
  | .toggleSort i => do return { columns := some (← q.columns.toggleSort i) }
  | .addFilter path => do
    return { filters := some (← q.filters.add c.schema q.model path) }
  | .removeFilter i => do return { filters := some (← q.filters.remove i) }
  | .setFilterValue i value => do return { filters := some (← q.filters.setValue i value) }
  | .setFilterLookup i lookup => do
    let filters ← q.filters.setLookup i lookup
    let f ← filters.get i
    c.schema.checkLookup q.model f.path f.lookup
    return { filters := some filters }
  | .applyDefaultFilters => do
    return { filters := some (q.filters ++ (← Filters.defaults c.schema q.model)) }
  | .setFilterErrors messages => return { filters := some (q.filters.setMessages messages) }
  | .setData rows => do
    q.columns.checkRows rows
    return { rows := some rows }
  | .setLimit raw => do return { limit := some (← Limit.parse raw) }

/-- The query after a command. -/
def apply (c : Composer) (q : Query) (command : Command) : Except QueryError Query := do
  return q.merge (← c.patch q command)

/-- The query after some commands, up to the first that fails. -/
def run (c : Composer) (q : Query) (commands : List Command) : Except QueryError Query :=
  commands.foldlM c.apply q

end Composer

end QueryComposer
