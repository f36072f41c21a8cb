import QueryComposer.Text.Quoted

/-! # Errors

  Why a request on a schema or a query is turned down. Each error names what was
  asked for, so that its message can be shown as it is. Values of filters are not
  judged here: what is wrong with one is told by a message kept on the filter.
-/

namespace QueryComposer

/-- The lists of a query that are edited by position. -/
inductive Collection where
  | fields
  | filters
deriving DecidableEq, Repr

/-- The name of a list. -/
def Collection.name : Collection → String
  | .fields => "fields"
  | .filters => "filters"

/-- The cause of a failure. -/
inductive QueryError where
  /-- The schema has no such model. -/
  | unknownModel (model : String)
  /-- A name on the path leads nowhere. -/
  | unknownPath (model path segment : String)
  /-- The field has a type that the schema does not describe. -/
  | unknownType (path typeName : String)
  /-- The type of the field does not offer the lookup. -/
  | unknownLookup (path lookup : String)
  /-- The field has no values that a filter could compare. -/
  | notFilterable (path : String)
  /-- The field has no type and so no cells. -/
  | notSelectable (path : String)
  /-- There is no entry at the position. -/
  | indexOutOfRange (collection : Collection) (index length : Nat)
  /-- The text is not a whole number. -/
  | invalidLimit (raw : String)
  /-- The text is not a list of fields with their sorts. -/
  | malformedFields (segment : String)
  /-- The text names no field and lookup. -/
  | malformedFilter (segment : String)
  /-- A row has not one cell for each field. -/
  | columnMismatch (row expected found : Nat)
  /-- The settings or the schema cannot be used. -/
  | configuration (reason : String)
deriving DecidableEq, Repr

namespace QueryError

/-- The name of the cause, which does not change with the wording. -/
def code : QueryError → String
  | unknownModel .. => "unknown_model"
  | unknownPath .. => "unknown_path"
  | unknownType .. => "unknown_type"
  | unknownLookup .. => "unknown_lookup"
  | notFilterable .. => "not_filterable"
  | notSelectable .. => "not_selectable"
  | indexOutOfRange .. => "index_out_of_range"
  | invalidLimit .. => "invalid_limit"
  | malformedFields .. => "malformed_fields"
  | malformedFilter .. => "malformed_filter"
  | columnMismatch .. => "column_mismatch"
  | configuration .. => "configuration_error"

/-- The message for people. -/
def message : QueryError → String
  | unknownModel model => "Unknown model: " ++ model
  | unknownPath model path segment =>
    "Unknown path '" ++ path ++ "' on model " ++ model ++ ": no field or relation named '"
      ++ segment ++ "'"
  | unknownType path typeName => "Field '" ++ path ++ "' has unknown type '" ++ typeName ++ "'"
  | unknownLookup path lookup =>
    "Lookup '" ++ lookup ++ "' is not valid for field '" ++ path ++ "'"
  | notFilterable path => "Field '" ++ path ++ "' cannot be filtered on"
  | notSelectable path => "Field '" ++ path ++ "' has no type and cannot be shown as a column"
  | indexOutOfRange collection index length =>
    "Index " ++ index.repr ++ " out of range for " ++ collection.name ++ " (len "
      ++ length.repr ++ ")"
  | invalidLimit raw => "Invalid row limit: " ++ Text.quoted raw
  | malformedFields segment => "Malformed fields segment: " ++ Text.quoted segment
  | malformedFilter segment => "Malformed filter segment: " ++ Text.quoted segment
  | columnMismatch row expected found =>
    "Row " ++ row.repr ++ " has " ++ found.repr ++ " columns, expected " ++ expected.repr
  | configuration reason => "Configuration error: " ++ reason

/-- Whether the request does not fit the schema; the schema may then be out of date. -/
def isSchemaError : QueryError → Bool
  | unknownModel .. | unknownPath .. | unknownType .. => true
  | _ => false

end QueryError

end QueryComposer
