import QueryComposer.Schema.Basic

/-! # Paths

  A path is a list of names joined by two underscores. It is split from the left,
  so that of a longer run of underscores the first two separate.
-/

namespace QueryComposer

namespace Path

/-- The names on a path, as lists of characters. -/
def parts : List Char → List (List Char)
  | [] => [[]]
  | '_' :: '_' :: cs => [] :: parts cs
  | c :: cs => (parts cs).modifyHead (c :: ·)

/-- The names on a path. -/
def split (path : String) : List String := (parts path.toList).map String.ofList

/-- The path of some names. -/
def join (names : List String) : String := pathSeparator.intercalate names

/-- The text before and after the last two underscores that stand side by side. -/
def lastParts? : List Char → Option (List Char × List Char)
  | [] => none
  | c :: cs =>
    match lastParts? cs with
    | some (before, after) => some (c :: before, after)
    | none =>
      match c, cs with
      | '_', '_' :: after => some ([], after)
      | _, _ => none

end Path

end QueryComposer
