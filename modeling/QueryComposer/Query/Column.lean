import QueryComposer.Direction
import QueryComposer.Error
import QueryComposer.Json.Basic

/-! # Columns

  The fields chosen for a query are its columns, in the order in which they are
  shown. A sorted column has a direction and a priority, the column of priority 0
  being the first key of the order; the priorities of `k` sorted columns are the
  numbers below `k`. The rows that were fetched have one cell for each column.
-/

namespace QueryComposer

/-- A cell of the result, as it was fetched. -/
abbrev Cell := Json

/-- A row of the result. -/
abbrev Row := List Cell

/-- A field chosen for the result. -/
structure Column where
  /-- The path from the model of the query. -/
  path : String
  /-- The direction, if the column is sorted. -/
  sort : Option Direction := none
  /-- The rank among the sorted columns, 0 being the first. -/
  priority : Option Nat := none
deriving DecidableEq, Repr, Inhabited

namespace Column

/-- A sorted column. -/
def sorted (path : String) (d : Direction) (priority : Nat) : Column :=
  { path, sort := some d, priority := some priority }

/-- Whether the column takes part in the order. -/
def isSorted (c : Column) : Bool := c.sort.isSome

end Column

/-- The cell of a column that has not been fetched yet. -/
def emptyCell : Cell := .string ""

/-- The columns of a query. -/
abbrev Columns := List Column

namespace Columns

/-- Fails for a position that no column has. -/
def get (cs : Columns) (i : Nat) : Except QueryError Column :=
  match cs[i]? with
  | some c => .ok c
  | none => .error (.indexOutOfRange .fields i cs.length)

/-- The paths of the columns. -/
def paths (cs : Columns) : List String := cs.map (·.path)

/-- Moves every priority beyond `p` down by one, which fills the gap that a column
    of that priority leaves. -/
def closeGap (p : Nat) (cs : Columns) : Columns :=
  cs.map fun c => { c with priority := c.priority.map fun q => if p < q then q - 1 else q }

/-- Appends an unsorted column for the path. -/
def add (cs : Columns) (path : String) : Columns := cs ++ [{ path := path }]

/-- Removes the column at a position; its priority leaves no gap. -/
def remove (cs : Columns) (i : Nat) : Except QueryError Columns := do
  let c ← cs.get i
  let closed := match c.priority with
    | some p => cs.closeGap p
    | none => cs
  return closed.eraseIdx i

/-- Fails on the first row that has not one cell for each column. -/
def checkRows (cs : Columns) (rows : List Row) : Except QueryError Unit :=
  match rows.findIdx? (·.length ≠ cs.length) with
  | some i => .error (.columnMismatch i cs.length ((rows[i]?.map List.length).getD 0))
  | none => .ok ()

end Columns

namespace Row

/-- Appends a cell that has not been fetched. -/
def extend (row : Row) : Row := row ++ [emptyCell]

/-- Removes the cell at a position, if there is one. -/
def removeCell (i : Nat) (row : Row) : Row := row.eraseIdx i

end Row

end QueryComposer
