import QueryComposer.Direction
import QueryComposer.Error
import QueryComposer.Form
import QueryComposer.KeyMap

/-! # The schema

  What can be asked for: the models, their fields and the relations between them,
  and for each type of field the lookups that filters may use. A schema is given
  for a session and only read by everything else.

  The tables come with an order of display, which may be absent (then the order of
  the names serves) and may name entries that do not exist.
-/

namespace QueryComposer

/-! ## Section 1: Types of fields -/

/-- What kind of value a lookup compares with, for the choice of an editor. -/
inductive ValueKind where
  | boolean
  | weekday
  | month
  | number
  | numberChoice
  | stringChoice
  | year
  | jsonField
  /-- Free text, and any kind that is not known here. -/
  | text
deriving DecidableEq, Repr, Inhabited

/-- A comparison that a filter can make. -/
structure Lookup where
  /-- What it compares with. -/
  kind : ValueKind
  /-- The value that a new filter starts with. -/
  initial : String := ""
deriving DecidableEq, Repr, Inhabited

/-- A type of fields: its lookups and what a new filter or column starts with. -/
structure FieldType where
  /-- The lookups by name. -/
  lookups : KeyMap Lookup
  /-- The lookup of a new filter; none for types that cannot be filtered on. -/
  defaultLookup : Option String := none
  /-- The sort of a new column, where one is wanted. -/
  defaultSort : Option Direction := none
  /-- The names of the lookups as displayed. -/
  lookupOrder : List String := []
deriving DecidableEq, Repr, Inhabited

namespace FieldType

/-- The lookup of a name. -/
def lookup? (t : FieldType) (name : String) : Option Lookup := t.lookups.find? name

/-- Whether the type offers a lookup of the name. -/
def hasLookup (t : FieldType) (name : String) : Bool := t.lookups.has name

/-- The default lookup with its name, where the table has it. -/
def defaultLookup? (t : FieldType) : Option (String × Lookup) := do
  let name ← t.defaultLookup
  let lookup ← t.lookup? name
  return (name, lookup)

/-- The names of the lookups as displayed, or in their own order where no order
    of display is given. -/
def lookupNames (t : FieldType) : List String :=
  if t.lookupOrder.isEmpty then t.lookups.names else t.lookupOrder

end FieldType

/-! ## Section 2: Fields and models -/

/-- A field of a model, or a relation to another model. -/
structure Field where
  /-- The name for people. -/
  prettyName : String
  /-- Whether the field is stored as such, so that filters can compare it. -/
  concrete : Bool := false
  /-- The name of its type; a field without one has no cells. -/
  typeName : Option String := none
  /-- The model that it leads to. -/
  target : Option String := none
  /-- Relations noted with the field itself. -/
  relations : List (String × Field) := []
deriving Repr, Inhabited

namespace Field

/-- A stored field of a type. -/
def stored (prettyName typeName : String) : Field :=
  { prettyName, concrete := true, typeName := some typeName }

/-- A relation to a model. -/
def relation (prettyName target : String) : Field := { prettyName, target := some target }

/-- Whether the field can be shown as a column. -/
def isSelectable (f : Field) : Bool := f.typeName.isSome

/-- Whether the field can carry a filter. -/
def isFilterable (f : Field) : Bool := f.concrete && f.typeName.isSome

/-- Whether the field leads to another model. -/
def isRelation (f : Field) : Bool := f.target.isSome

end Field

/-- A model: its fields, its relations and the filters it is opened with. -/
structure Model where
  /-- The fields by name. -/
  fields : KeyMap Field
  /-- The relations by name; they go before fields of the same name. -/
  relations : KeyMap Field := []
  /-- The names of the fields as displayed. -/
  fieldOrder : List String := []
  /-- The filters to begin with, as a filter segment. -/
  defaultFilters : String := ""
deriving Repr, Inhabited

/-- The text between the names on a path, and between a path and a lookup. -/
def pathSeparator : String := "__"

namespace Model

/-- A model without fields. -/
def empty : Model := { fields := [] }

/-- The model with one more field, displayed last. -/
def withField (m : Model) (name : String) (f : Field) : Model :=
  { m with
    fields := m.fields.insert name f
    fieldOrder := m.fieldOrder ++ [name] }

/-- The model with one more relation, which is among its fields too, displayed last. -/
def withRelation (m : Model) (name : String) (f : Field) : Model :=
  { m with
    fields := m.fields.insert name f
    relations := m.relations.insert name f
    fieldOrder := m.fieldOrder ++ [name] }

/-- The model with one more filter at the end of those it is opened with. -/
def withDefaultFilter (m : Model) (path lookup value : String) : Model :=
  { m with
    defaultFilters := Form.append m.defaultFilters (path ++ pathSeparator ++ lookup, value) }

/-- The names of the fields as displayed, those that exist, or in their own order
    where no order of display is given. -/
def fieldNames (m : Model) : List String :=
  if m.fieldOrder.isEmpty then m.fields.names else m.fieldOrder.filter m.fields.has

/-- The relation of a name: one of the relations, or else a field that leads to a model. -/
def relation? (m : Model) (name : String) : Option Field :=
  match m.relations.find? name with
  | some f => some f
  | none => (m.fields.find? name).filter Field.isRelation

end Model

/-! ## Section 3: The schema -/

/-- The whole schema of a session. -/
structure Schema where
  /-- The models by name. -/
  models : KeyMap Model
  /-- The types of fields by name. -/
  types : KeyMap FieldType
  /-- Where the browser is mounted, with a slash at the end. -/
  baseUrl : String := ""
  /-- Where a query is sent to be kept as a view. -/
  adminUrl : String := ""
  /-- The names of the models as displayed. -/
  modelOrder : List String := []
deriving Repr, Inhabited

namespace Schema

/-- A schema without models and types, mounted at the given places. -/
def mountedAt (baseUrl adminUrl : String) : Schema :=
  { models := [], types := [], baseUrl, adminUrl }

/-- The schema with one more model, displayed last. -/
def withModel (s : Schema) (name : String) (m : Model) : Schema :=
  { s with
    models := s.models.insert name m
    modelOrder := s.modelOrder ++ [name] }

/-- The schema with other types. -/
def withTypes (s : Schema) (types : KeyMap FieldType) : Schema := { s with types }

/-- Whether there is a model of the name. -/
def hasModel (s : Schema) (name : String) : Bool := s.models.has name

/-- The model of a name. -/
def model (s : Schema) (name : String) : Except QueryError Model :=
  match s.models.find? name with
  | some m => .ok m
  | none => .error (.unknownModel name)

/-- The type of a name. -/
def type? (s : Schema) (name : String) : Option FieldType := s.types.find? name

/-- The names of the models as displayed, or in their own order where no order
    of display is given. -/
def modelNames (s : Schema) : List String :=
  if s.modelOrder.isEmpty then s.models.names else s.modelOrder

end Schema

end QueryComposer
