/-! # Cutting text at a separator

  Text is cut at the first place that a character occurs, or at the last place
  that a character of a class occurs. The separator belongs to neither part.
  Some characters are cut off where they are no part of what is said.
-/

namespace QueryComposer.Text

/-- The text before and after the first occurrence of `sep`. -/
def cutFirst (sep : Char) : List Char → Option (List Char × List Char)
  | [] => none
  | c :: cs =>
    if c = sep then some ([], cs)
    else (cutFirst sep cs).map fun (before, after) => (c :: before, after)

/-- The text before the last character of a class, that character, and the
    text after it. -/
def cutLast (isSep : Char → Bool) : List Char → Option (List Char × Char × List Char)
  | [] => none
  | c :: cs =>
    match cutLast isSep cs with
    | some (before, sep, after) => some (c :: before, sep, after)
    | none => if isSep c then some ([], c, cs) else none

/-- The mark of the order of bytes, which may stand in front of the text of a file. -/
def orderMark : Char := '\uFEFF'

/-- The text behind a mark of the order of bytes, if there is one. -/
def behindOrderMark (cs : List Char) : List Char :=
  if cs.head? = some orderMark then cs.drop 1 else cs

/-- The text with every `c` at its end taken off. -/
def dropTrailing (c : Char) (cs : List Char) : List Char :=
  (cs.reverse.dropWhile (· = c)).reverse

end QueryComposer.Text
