import QueryComposer.Json.Reader
import QueryComposer.Json.Record
import QueryComposer.Schema.Basic

/-! # Schema documents

  A schema is delivered as one document. Every part of it is a record
  (`Json.slots?`), whose members have the names listed beside it, or a table,
  which is an object. Writing gives every member, in the order of the names.
-/

namespace QueryComposer

namespace KeyMap

variable {α : Type}

/-- The entries of a table in the order of the text. -/
def entries? (read : Json → Option α) : List (String × Json) → Option (List (String × α))
  | [] => some []
  | (name, v) :: ms => do return (name, ← read v) :: (← entries? read ms)

/-- The table that an object holds; of entries with one name the last counts. -/
def ofJson? (read : Json → Option α) : Json → Option (KeyMap α)
  | .object members => (entries? read members).map ofEntries
  | _ => none

/-- The table as an object. -/
def toJson (write : α → Json) (m : KeyMap α) : Json :=
  .object (m.map fun (name, a) => (name, write a))

end KeyMap

/-! ## Section 1: Directions and kinds of values -/

namespace Direction

/-- The direction that a document names. -/
def ofJson? (v : Json) : Option Direction := v.variant?.bind ofName?

/-- The name of the direction. -/
def toJson (d : Direction) : Json := .string d.name

end Direction

namespace ValueKind

/-- The name of a kind in documents. -/
def name : ValueKind → String
  | boolean => "boolean"
  | weekday => "weekday"
  | month => "month"
  | number => "number"
  | numberChoice => "numberchoice"
  | stringChoice => "stringchoice"
  | year => "year"
  | jsonField => "jsonfield"
  | text => "text"

/-- The kind of a name; a kind that is not known is free text. -/
def ofName : String → ValueKind
  | "boolean" => boolean
  | "weekday" => weekday
  | "month" => month
  | "number" => number
  | "numberchoice" => numberChoice
  | "stringchoice" => stringChoice
  | "year" => year
  | "jsonfield" => jsonField
  | _ => text

/-- The kind that a document names. -/
def ofJson? (v : Json) : Option ValueKind := v.variant?.map ofName

/-- The name of the kind. -/
def toJson (k : ValueKind) : Json := .string k.name

end ValueKind

/-! ## Section 2: Types of fields -/

namespace Lookup

/-- The members of a lookup. -/
def members : List String := ["type", "defaultValue"]

/-- The lookup that a document describes. -/
def ofJson? (v : Json) : Option Lookup :=
  match v.slots? members with
  | some [kind, initial] => do
    let kind ← kind.required ValueKind.ofJson?
    let initial ← initial.withDefault "" Json.text?
    return { kind, initial }
  | _ => none

/-- The lookup as a document describes it. -/
def toJson (l : Lookup) : Json :=
  .object [("type", l.kind.toJson), ("defaultValue", .string l.initial)]

end Lookup

namespace FieldType

/-- The members of a type. -/
def members : List String := ["lookups", "defaultLookup", "defaultSort", "sortedLookups"]

/-- The type that a document describes. -/
def ofJson? (v : Json) : Option FieldType :=
  match v.slots? members with
  | some [lookups, defaultLookup, defaultSort, lookupOrder] => do
    let lookups ← lookups.required (KeyMap.ofJson? Lookup.ofJson?)
    let defaultLookup ← defaultLookup.optional Json.text?
    let defaultSort ← defaultSort.optional Direction.ofJson?
    let lookupOrder ← lookupOrder.withDefault [] (Json.list? Json.text?)
    return { lookups, defaultLookup, defaultSort, lookupOrder }
  | _ => none

/-- The type as a document describes it. -/
def toJson (t : FieldType) : Json :=
  .object
    [("lookups", t.lookups.toJson Lookup.toJson),
     ("defaultLookup", .ofOption .string t.defaultLookup),
     ("defaultSort", .ofOption Direction.toJson t.defaultSort),
     ("sortedLookups", .array (t.lookupOrder.map .string))]

end FieldType

/-! ## Section 3: Fields and models -/

namespace Field

/-- The members of a field. -/
def members : List String := ["prettyName", "concrete", "type", "model", "fks"]

/-- The field of some members and of the relations noted with it. -/
def ofSlots? (relations : List (String × Field)) : List Json.Slot → Option Field
  | [prettyName, concrete, typeName, target, _] => do
    let prettyName ← prettyName.required Json.text?
    let concrete ← concrete.withDefault false Json.bool?
    let typeName ← typeName.optional Json.text?
    let target ← target.optional Json.text?
    return { prettyName, concrete, typeName, target, relations }
  | _ => none

mutual

/-- The field that a document describes. -/
def ofJson? : Json → Option Field
  | .object ms => do
    ofSlots? (← memberRelations? ms) (← (Json.object ms).slots? members)
  | .array [a, b, c, d, relations] => do
    ofSlots? (← relationTable? relations) (← Json.itemSlots? members [a, b, c, d, relations])
  | .array items => do ofSlots? [] (← Json.itemSlots? members items)
  | _ => none

/-- The relations given among the members of a field, and none by default. -/
def memberRelations? : List (String × Json) → Option (List (String × Field))
  | [] => some []
  | (name, v) :: ms => if name = "fks" then relationTable? v else memberRelations? ms

/-- The table of relations that an object holds. -/
def relationTable? : Json → Option (List (String × Field))
  | .object ms => (relationEntries? ms).map KeyMap.ofEntries
  | _ => none

/-- The relations in the order of the text. -/
def relationEntries? : List (String × Json) → Option (List (String × Field))
  | [] => some []
  | (name, v) :: ms => do return (name, ← ofJson? v) :: (← relationEntries? ms)

end

mutual

/-- The field as a document describes it; relations are left out where there are none. -/
def toJson : Field → Json
  | { prettyName, concrete, typeName, target, relations } =>
    let plain : List (String × Json) :=
      [("prettyName", .string prettyName),
       ("concrete", .bool concrete),
       ("type", .ofOption .string typeName),
       ("model", .ofOption .string target)]
    let table := relationsToJson relations
    .object (if table.isEmpty then plain else plain ++ [("fks", .object table)])

/-- The relations as the members of an object. -/
def relationsToJson : List (String × Field) → List (String × Json)
  | [] => []
  | (name, f) :: rest => (name, toJson f) :: relationsToJson rest

end

end Field

namespace Model

/-- The members of a model. -/
def members : List String := ["fields", "fks", "sortedFields", "defaultFilters"]

/-- The model that a document describes. -/
def ofJson? (v : Json) : Option Model :=
  match v.slots? members with
  | some [fields, relations, fieldOrder, defaultFilters] => do
    let fields ← fields.required (KeyMap.ofJson? Field.ofJson?)
    let relations ← relations.withDefault [] (KeyMap.ofJson? Field.ofJson?)
    let fieldOrder ← fieldOrder.withDefault [] (Json.list? Json.text?)
    let defaultFilters ← defaultFilters.withDefault "" Json.text?
    return { fields, relations, fieldOrder, defaultFilters }
  | _ => none

/-- The model as a document describes it. -/
def toJson (m : Model) : Json :=
  .object
    [("fields", m.fields.toJson Field.toJson),
     ("fks", m.relations.toJson Field.toJson),
     ("sortedFields", .array (m.fieldOrder.map .string)),
     ("defaultFilters", .string m.defaultFilters)]

end Model

/-! ## Section 4: The schema -/

namespace Schema

/-- The members of a schema. -/
def members : List String := ["allModelFields", "types", "baseUrl", "adminUrl", "sortedModels"]

/-- The schema that a document describes. -/
def ofJson? (v : Json) : Option Schema :=
  match v.slots? members with
  | some [models, types, baseUrl, adminUrl, modelOrder] => do
    let models ← models.required (KeyMap.ofJson? Model.ofJson?)
    let types ← types.required (KeyMap.ofJson? FieldType.ofJson?)
    let baseUrl ← baseUrl.withDefault "" Json.text?
    let adminUrl ← adminUrl.withDefault "" Json.text?
    let modelOrder ← modelOrder.withDefault [] (Json.list? Json.text?)
    return { models, types, baseUrl, adminUrl, modelOrder }
  | _ => none

/-- The schema as a document describes it. -/
def toJson (s : Schema) : Json :=
  .object
    [("allModelFields", s.models.toJson Model.toJson),
     ("types", s.types.toJson FieldType.toJson),
     ("baseUrl", .string s.baseUrl),
     ("adminUrl", .string s.adminUrl),
     ("sortedModels", .array (s.modelOrder.map .string))]

/-- The schema of the text of a document. -/
def parse (document : String) : Except QueryError Schema :=
  match (Json.parse? document).bind ofJson? with
  | some s => .ok s
  | none => .error (.configuration "invalid schema")

end Schema

end QueryComposer
