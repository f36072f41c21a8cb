/-! # Sort directions

  A column is sorted one way or the other, or not at all, which is `none`
  wherever sorting is optional.
-/

namespace QueryComposer

/-- The order of a sorted column. -/
inductive Direction where
  /-- From small to large, from early to late. -/
  | ascending
  /-- From large to small, from late to early. -/
  | descending
deriving DecidableEq, Repr, Inhabited

namespace Direction

/-- The name of a direction in documents. -/
def name : Direction → String
  | ascending => "asc"
  | descending => "dsc"

/-- The direction of a name in documents. -/
def ofName? : String → Option Direction
  | "asc" => some ascending
  | "dsc" => some descending
  | _ => none

/-- The sign of a direction in links. -/
def sign : Direction → Char
  | ascending => '+'
  | descending => '-'

/-- The direction of a sign. -/
def ofSign? : Char → Option Direction
  | '+' => some ascending
  | '-' => some descending
  | _ => none

/-- The direction that a word names, short or in full, in letters of either case.
    No letter beyond ASCII has a small form among the letters of these words. -/
def ofWord? (word : String) : Option Direction :=
  match String.ofList (word.toList.map Char.toLower) with
  | "asc" | "ascending" => some ascending
  | "dsc" | "desc" | "descending" => some descending
  | _ => none

/-- What a click on the head of a column makes of its sort: none, ascending,
    descending, and none again. -/
def next : Option Direction → Option Direction
  | none => some ascending
  | some ascending => some descending
  | some descending => none

end Direction

end QueryComposer
