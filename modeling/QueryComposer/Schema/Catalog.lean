import QueryComposer.Schema.Basic

/-! # Standard types

  The types of fields that a schema may take for granted: which lookups each of
  them has, with what kind of value each lookup compares, and what a new filter
  starts with. A schema that comes without types uses this catalog.

  The value that a new filter on a year starts with is the current year, which is
  an argument wherever it matters.
-/

namespace QueryComposer

/-- A type of the catalog. -/
inductive StandardType where
  | string
  | html
  | stringChoice
  | stringArray
  | number
  | numberChoice
  | numberArray
  | year
  | duration
  | datetime
  | date
  | weekday
  | month
  | boolean
  | isNull
  | regex
  | json
  | jsonField
  | unknown
deriving DecidableEq, Repr, Inhabited

namespace StandardType

/-- Every type of the catalog. -/
def all : List StandardType :=
  [string, html, stringChoice, stringArray, number, numberChoice, numberArray, year, duration,
   datetime, date, weekday, month, boolean, isNull, regex, json, jsonField, unknown]

/-- The name of a type. -/
def name : StandardType → String
  | string => "string"
  | html => "html"
  | stringChoice => "stringchoice"
  | stringArray => "stringarray"
  | number => "number"
  | numberChoice => "numberchoice"
  | numberArray => "numberarray"
  | year => "year"
  | duration => "duration"
  | datetime => "datetime"
  | date => "date"
  | weekday => "weekday"
  | month => "month"
  | boolean => "boolean"
  | isNull => "isnull"
  | regex => "regex"
  | json => "json"
  | jsonField => "jsonfield"
  | unknown => "unknown"

/-- The type of a name. -/
def ofName? (s : String) : Option StandardType := all.find? fun t => t.name = s

/-- The lookups on text, where `equal` is the type that equality compares with. -/
def textLookups (equal : StandardType) : List (String × StandardType) :=
  [("equals", equal), ("contains", string), ("starts_with", string), ("ends_with", string),
   ("regex", regex), ("not_equals", equal), ("not_contains", string),
   ("not_starts_with", string), ("not_ends_with", string), ("not_regex", regex),
   ("is_null", boolean)]

/-- The lookups on ordered values, where equality compares with `equal` and the
    order with `ordered`. -/
def orderLookups (equal ordered : StandardType) : List (String × StandardType) :=
  [("equals", equal), ("not_equals", equal), ("gt", ordered), ("gte", ordered),
   ("lt", ordered), ("lte", ordered), ("is_null", boolean)]

/-- The lookups on lists of values of a type. -/
def arrayLookups (element : StandardType) : List (String × StandardType) :=
  [("contains", element), ("length", number), ("not_contains", element),
   ("not_length", number), ("is_null", boolean)]

/-- The lookups of a type as displayed, each with the type that it compares with. -/
def lookups : StandardType → List (String × StandardType)
  | string | html => textLookups string
  | stringChoice => textLookups stringChoice
  | number => orderLookups number number
  | numberChoice => orderLookups numberChoice number
  | year => orderLookups year year
  | duration => orderLookups duration duration
  | datetime => orderLookups datetime datetime
  | date => orderLookups date date
  | weekday => [("equals", weekday), ("not_equals", weekday)]
  | month => [("equals", month), ("not_equals", month)]
  | boolean => [("equals", boolean), ("not_equals", boolean), ("is_null", boolean)]
  | isNull => [("equals", boolean)]
  | json =>
    [("is_null", boolean), ("has_key", string), ("field_equals", jsonField),
     ("not_has_key", string), ("not_field_equals", jsonField)]
  | stringArray => arrayLookups stringChoice
  | numberArray => arrayLookups numberChoice
  | unknown => [("is_null", boolean)]
  | regex | jsonField => []

/-- The value that a filter comparing with the type starts with. -/
def initialValue (currentYear : String) : StandardType → String
  | number => "0"
  | year => currentYear
  | datetime => "now"
  | date => "today"
  | weekday => "Monday"
  | month => "January"
  | boolean | isNull => "true"
  | regex => ".*"
  | jsonField => "|"
  | string | html | stringChoice | stringArray | numberChoice | numberArray | duration | json
  | unknown => ""

/-- The kind of value that a lookup comparing with the type takes. -/
def kind : StandardType → ValueKind
  | boolean | isNull => .boolean
  | weekday => .weekday
  | month => .month
  | number => .number
  | numberChoice => .numberChoice
  | stringChoice => .stringChoice
  | year => .year
  | jsonField => .jsonField
  | string | html | stringArray | numberArray | duration | datetime | date | regex | json
  | unknown => .text

/-- The sort that a new column of the type starts with: times are sorted early to late. -/
def defaultSort : StandardType → Option Direction
  | year | datetime | date | weekday | month => some .ascending
  | _ => none

/-- The type as a schema describes it. The first lookup is the default. -/
def fieldType (currentYear : String) (t : StandardType) : FieldType :=
  { lookups := KeyMap.ofEntries <| t.lookups.map fun (name, compared) =>
      (name, { kind := compared.kind, initial := compared.initialValue currentYear })
    defaultLookup := t.lookups.head?.map (·.1)
    defaultSort := t.defaultSort
    lookupOrder := t.lookups.map (·.1) }

end StandardType

namespace Catalog

/-- The type of a name; a name that is not in the catalog has no lookups. -/
def fieldType (currentYear name : String) : FieldType :=
  match StandardType.ofName? name with
  | some t => t.fieldType currentYear
  | none => { lookups := [] }

/-- The value that a filter comparing with the named type starts with. -/
def initialValue (currentYear name : String) : String :=
  match StandardType.ofName? name with
  | some t => t.initialValue currentYear
  | none => ""

/-- The kind of value that the named type stands for. -/
def kind (name : String) : ValueKind :=
  match StandardType.ofName? name with
  | some t => t.kind
  | none => .text

/-- The sort that a new column of the named type starts with. -/
def defaultSort (name : String) : Option Direction :=
  (StandardType.ofName? name).bind StandardType.defaultSort

/-- The whole catalog. -/
def standardTypes (currentYear : String) : KeyMap FieldType :=
  KeyMap.ofEntries (StandardType.all.map fun t => (t.name, t.fieldType currentYear))

end Catalog

/-- The schema with the standard types in place of an empty table. -/
def Schema.withStandardTypes (currentYear : String) (s : Schema) : Schema :=
  if s.types.isEmpty then s.withTypes (Catalog.standardTypes currentYear) else s

end QueryComposer
