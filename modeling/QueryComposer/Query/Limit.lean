import QueryComposer.Error
import QueryComposer.Text.Blank
import QueryComposer.Text.Numeral

/-! # Row limits

  How many rows are fetched at most: a number of 32 bits that is at least 1.
  Numbers outside that range move to its nearer end.
-/

namespace QueryComposer

namespace Limit

/-- The limit of a query on which none was set. -/
def standard : Nat := 1000

/-- The greatest limit. -/
def greatest : Nat := Nat.pow 2 32 - 1

/-- The limit nearest to a number. -/
def clamp (n : Int) : Nat := min (max n 1).toNat greatest

/-- The limit that a user typed, with any white space around it. -/
def parse (raw : String) : Except QueryError Nat :=
  match Text.integer64? (Text.trim raw.toList) with
  | some n => .ok (clamp n)
  | none => .error (.invalidLimit raw)

end Limit

end QueryComposer
