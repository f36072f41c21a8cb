import QueryComposer.Query.Column

/-! # Sorting by several columns

  The order of the result is kept on the columns themselves. A click on a column
  takes its sort one step around the cycle none, ascending, descending; a column
  that is sorted afterwards becomes the first key and all other keys move back,
  so that the column touched last decides.
-/

namespace QueryComposer

/-- One key of the order of the result. -/
structure SortKey where
  /-- The path of the column. -/
  path : String
  /-- Its direction. -/
  direction : Direction
deriving DecidableEq, Repr

namespace Columns

/-! ## Section 1: Changing the order -/

/-- Moves every sorted column back by one place. -/
def pushBack (cs : Columns) : Columns :=
  cs.map fun c => { c with priority := c.priority.map (· + 1) }

/-- Takes the sort of the column at a position one step further. -/
def toggleSort (cs : Columns) (i : Nat) : Except QueryError Columns := do
  let c ← cs.get i
  let closed := match c.sort, c.priority with
    | some _, some p => cs.closeGap p
    | _, _ => cs
  match Direction.next c.sort with
  | some d => return closed.pushBack.set i { c with sort := some d, priority := some 0 }
  | none => return closed.set i { c with sort := none, priority := none }

/-- Takes the sort of the column at a position further until it is `target`,
    which `steps` steps at most are spent on. -/
def sortWithin : Nat → Columns → Nat → Option Direction → Except QueryError Columns
  | 0, cs, _, _ => .ok cs
  | steps + 1, cs, i, target => do
    let c ← cs.get i
    if c.sort = target then return cs
    else sortWithin steps (← cs.toggleSort i) i target

/-- Takes the sort of the column at a position to `target`. Two steps lead from any
    of the three sorts to any other. -/
def sortTo (cs : Columns) (i : Nat) (target : Option Direction) : Except QueryError Columns :=
  sortWithin 2 cs i target

/-! ## Section 2: Reading the order -/

/-- How many columns are sorted. -/
def sortedCount (cs : Columns) : Nat := cs.countP Column.isSorted

/-- The key of a sorted column, with its priority. -/
def rankedKey? (c : Column) : Option (Nat × SortKey) :=
  match c.sort, c.priority with
  | some direction, some p => some (p, { path := c.path, direction })
  | _, _ => none

/-- The keys of the order, the first one first; of two with one priority the column
    further to the left goes first. -/
def sortKeys (cs : Columns) : List SortKey :=
  ((cs.filterMap rankedKey?).mergeSort fun a b => a.1 ≤ b.1).map (·.2)

/-- The first key of the order. -/
def primary? (cs : Columns) : Option SortKey := cs.sortKeys.head?

/-- Whether exactly the sorted columns have a priority, and the priorities are the
    numbers from 0 up without gap or repetition. -/
def isDense (cs : Columns) : Bool :=
  let priorities := cs.filterMap (·.priority)
  cs.all (fun c => c.sort.isSome == c.priority.isSome)
    && priorities.mergeSort (fun a b => a ≤ b) == List.range priorities.length

/-! ## Section 3: Restoring the priorities -/

/-- The rank that a sorted column without priority takes, after all others. -/
def lastRank : Nat := Nat.pow 2 64 - 1

/-- The sorted columns as pairs of priority and position, in the order of both. -/
def ranking (cs : Columns) : List (Nat × Nat) :=
  let ranked := (cs.zipIdx.filter (·.1.isSorted)).map fun (c, i) => (c.priority.getD lastRank, i)
  ranked.mergeSort fun a b => a.1 < b.1 || (a.1 == b.1 && a.2 ≤ b.2)

/-- Gives the sorted columns the priorities from 0 up, in the order of the ones they
    have, and takes the priority from all others. -/
def renumber (cs : Columns) : Columns :=
  let order := cs.ranking.map (·.2)
  cs.mapIdx fun i c =>
    { c with priority := if c.isSorted then some (order.idxOf i) else none }

/-- Whether restoring the priorities changes one of them: an unsorted column has one to lose,
    or a sorted column has another one than its place in the order. -/
def renumberChanges (cs : Columns) : Bool :=
  cs.any (fun c => !c.isSorted && c.priority.isSome)
    || cs.ranking.zipIdx.any fun ((_, i), place) => cs[i]?.bind (·.priority) != some place

end Columns

end QueryComposer
