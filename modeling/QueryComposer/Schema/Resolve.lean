import QueryComposer.Schema.Path

/-! # Finding fields

  A path is followed from a model: each name but the last is a relation to the
  next model, and the last is a field of the model reached. What goes wrong on the
  way is reported with the model that the path started from, the whole path and
  the name that leads nowhere.
-/

namespace QueryComposer

/-- A field with the model that it belongs to. -/
structure Resolved where
  /-- The name of the model. -/
  model : String
  /-- The field. -/
  field : Field

namespace Schema

/-- The model that a relation of `m` leads to, on the way along `path` from `root`. -/
def follow (s : Schema) (root path : String) (m : Model) (name : String) :
    Except QueryError (String × Model) :=
  match (m.relation? name).bind (·.target) with
  | none => .error (.unknownPath root path name)
  | some target => do return (target, ← s.model target)

/-- The field that the names lead to from a model, on the way along `path` from `root`. -/
def resolveFrom (s : Schema) (root path : String) :
    String × Model → List String → Except QueryError Resolved
  | _, [] => .error (.unknownPath root path "")
  | (name, m), [last] =>
    match m.fields.find? last with
    | some field => .ok ⟨name, field⟩
    | none => .error (.unknownPath root path last)
  | (_, m), hop :: names => do s.resolveFrom root path (← s.follow root path m hop) names

/-- The field at the end of a path, with its model. -/
def resolve (s : Schema) (model path : String) : Except QueryError Resolved := do
  let m ← s.model model
  s.resolveFrom model path (model, m) (Path.split path)

/-- The field at the end of a path. -/
def field (s : Schema) (model path : String) : Except QueryError Field := do
  return (← s.resolve model path).field

/-- The field at the end of a path that is to be shown as a column. -/
def column (s : Schema) (model path : String) : Except QueryError Field := do
  let f ← s.field model path
  if f.isSelectable then return f else throw (.notSelectable path)

/-- The type of a field; the path only serves the message. -/
def typeOf (s : Schema) (path : String) (f : Field) : Except QueryError FieldType :=
  let name := f.typeName.getD ""
  match s.type? name with
  | some t => .ok t
  | none => .error (.unknownType path name)

/-- The type of the field at the end of a path. -/
def typeAt (s : Schema) (model path : String) : Except QueryError FieldType := do
  s.typeOf path (← s.field model path)

end Schema

end QueryComposer
