import QueryComposer.Schema.Path

/-! # Listing fields

  Every field that can be reached from a model through a bounded number of
  relations, in the order of display, each relation followed by the fields of
  the model that it leads to. The bound makes the list finite where relations
  run in circles.
-/

namespace QueryComposer

/-- A field in the listing. -/
structure Entry where
  /-- The path from the model the listing starts at. -/
  path : String
  /-- The names for people along the path, and last that of the field. -/
  prettyPath : List String
  /-- The field. -/
  field : Field
  /-- How many relations the path goes through. -/
  depth : Nat

namespace Schema

/-- The model that a field leads to, if it does and the model exists. -/
def targetOf? (s : Schema) (f : Field) : Option Model := f.target.bind s.models.find?

/-- The fields of a model reached through the names in `trail`, which are `pretty`
    to people, and of the models behind them, `hops` relations further at most. -/
def entriesFrom (s : Schema) (trail pretty : List String) : Nat → Model → List Entry
  | hops, m => m.fieldNames.flatMap fun name =>
    match m.fields.find? name with
    | none => []
    | some f =>
      let trail' := trail ++ [name]
      let pretty' := pretty ++ [f.prettyName]
      ⟨Path.join trail', pretty', f, trail.length⟩ ::
        match hops with
        | 0 => []
        | hops + 1 =>
          match s.targetOf? f with
          | none => []
          | some m' => s.entriesFrom trail' pretty' hops m'

/-- Every field that can be reached from a model through at most `depth` relations. -/
def walk (s : Schema) (model : String) (depth : Nat) : Except QueryError (List Entry) := do
  return s.entriesFrom [] [] depth (← s.model model)

end Schema

end QueryComposer
