import QueryComposer.Query.Filter
import QueryComposer.Query.Limit
import QueryComposer.Query.Sorting

/-! # Segments of links

  The text forms of columns and filters in links.

  - The fields segment lists the columns, joined by commas: a path, and behind it
    a sign and the priority if the column is sorted, as in `name+0,age-1,born`.
    Nothing is escaped in it.
  - The filter segment lists the filters as form-encoded pairs, with path and
    lookup for a name, as in `age__gte=18`. A pair named `limit` is no filter but
    sets the row limit.

  Reading checks every path and lookup against the schema.
-/

namespace QueryComposer

/-! ## Section 1: The fields segment -/

namespace Column

/-- The column as an entry of the fields segment. -/
def segment (c : Column) : String :=
  match c.sort, c.priority with
  | some d, some p => c.path ++ String.ofList (d.sign :: Text.decimal p)
  | _, _ => c.path

/-- Whether a character is the sign of a direction. -/
def isSign (c : Char) : Bool := (Direction.ofSign? c).isSome

/-- The column of an entry. The last sign separates the path from the priority, which
    is a number of 64 bits; an entry without a sign is the path of an unsorted column. -/
def ofSegment? (entry : List Char) : Option Column :=
  match Text.cutLast isSign entry with
  | none => some { path := String.ofList entry }
  | some (path, sign, digits) => do
    let d ← Direction.ofSign? sign
    if path.isEmpty then none
    else
      let p ← Text.naturalBelow? (Nat.pow 2 64) digits
      return sorted (String.ofList path) d p

end Column

namespace Columns

/-- The fields segment of the columns. -/
def segment (cs : Columns) : String := ",".intercalate (cs.map Column.segment)

/-- The entries of a fields segment; empty ones do not count. -/
def entries (segment : String) : List (List Char) :=
  (segment.toList.splitOn ',').filter (!·.isEmpty)

/-- The column of an entry whose path leads to a field with a type. -/
def readEntry (s : Schema) (model : String) (entry : List Char) : Except QueryError Column :=
  match Column.ofSegment? entry with
  | none => .error (.malformedFields (String.ofList entry))
  | some c => do
    let _ ← s.column model c.path
    return c

/-- The columns of a fields segment. The priorities given need not be dense; only
    their order counts. -/
def ofSegment (s : Schema) (model segment : String) : Except QueryError Columns := do
  return renumber (← (entries segment).mapM (readEntry s model))

end Columns

/-! ## Section 2: The filter segment -/

namespace Filters

/-- The filters as pairs of a link. -/
def pairs (fs : Filters) : List (String × String) := fs.map fun f => (f.key, f.value)

/-- The filter segment of the filters. -/
def segment (fs : Filters) : String := Form.encode fs.pairs

/-- The name of the pair that sets the row limit. -/
def limitKey : String := "limit"

/-- What a filter segment says: filters, and a row limit if it sets one. -/
structure Parsed where
  /-- The filters in the order of the text. -/
  filters : Filters := []
  /-- The last row limit. -/
  limit : Option Nat := none
deriving DecidableEq, Repr

/-- The path and the lookup that a name consists of, cut at the last separator; both
    have to be there. -/
def splitKey? (key : String) : Option (String × String) :=
  match Path.lastParts? key.toList with
  | some (path, lookup) =>
    if path.isEmpty || lookup.isEmpty then none
    else some (String.ofList path, String.ofList lookup)
  | none => none

/-- What a pair adds to what has been read. -/
def readPair (s : Schema) (model : String) (parsed : Parsed) (pair : String × String) :
    Except QueryError Parsed := do
  if pair.1 = limitKey then
    return { parsed with limit := some (← Limit.parse pair.2) }
  else
    match splitKey? pair.1 with
    | none => throw (.malformedFilter (pair.1 ++ "=" ++ pair.2))
    | some (path, lookup) =>
      s.checkLookup model path lookup
      return { parsed with filters := parsed.filters ++ [{ path, lookup, value := pair.2 }] }

/-- What a filter segment says about queries on a model. -/
def ofSegment (s : Schema) (model segment : String) : Except QueryError Parsed :=
  (Form.decode segment).foldlM (readPair s model) {}

/-- The filters that a model is opened with. -/
def defaults (s : Schema) (model : String) : Except QueryError Filters := do
  let m ← s.model model
  return (← ofSegment s model m.defaultFilters).filters

end Filters

end QueryComposer
