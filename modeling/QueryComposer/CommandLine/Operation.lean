import QueryComposer.Query.Command
import QueryComposer.Text.Blank
import QueryComposer.Text.Cut

/-! # Operations

  On the command line a command is one word: its kind, a colon and an argument.
  The first colon separates, so that the argument may hold further ones. Where the
  argument is a position and a value, the first equals sign stands between them.
-/

namespace QueryComposer

/-- Why a word is no operation. -/
inductive OperationError where
  /-- No colon ends the kind. -/
  | missingKind (word : String)
  /-- The text is no position. -/
  | notAnIndex (text : String)
  /-- No equals sign ends the position. -/
  | missingValue (argument : String)
  /-- There is no such kind. -/
  | unknownKind (kind : String)
deriving DecidableEq, Repr

namespace OperationError

/-- The message for people. -/
def message : OperationError → String
  | missingKind word => "expected KIND:ARG, got " ++ Text.quoted word
  | notAnIndex text => "expected an index, got " ++ Text.quoted text
  | missingValue argument => "expected INDEX=VALUE, got " ++ Text.quoted argument
  | unknownKind kind => "unknown operation " ++ Text.quoted kind

end OperationError

namespace Operation

/-- The position that a text gives, with any white space around it. -/
def index (text : List Char) : Except OperationError Nat :=
  match Text.unsignedBelow? (Nat.pow 2 64) (Text.trim text) with
  | some i => .ok i
  | none => .error (.notAnIndex (String.ofList text))

/-- The position and the value that an argument gives. -/
def assignment (argument : List Char) : Except OperationError (Nat × String) :=
  match Text.cutFirst '=' argument with
  | some (before, value) => do return (← index before, String.ofList value)
  | none => .error (.missingValue (String.ofList argument))

/-- The command of a kind with an argument. -/
def command (kind : String) (argument : List Char) : Except OperationError Command :=
  let text := String.ofList argument
  match kind with
  | "add-field" => return .addField text
  | "add-sorted-field" => return .addFieldWithDefaultSort text
  | "remove-field" => do return .removeField (← index argument)
  | "toggle-sort" => do return .toggleSort (← index argument)
  | "add-filter" => return .addFilter text
  | "remove-filter" => do return .removeFilter (← index argument)
  | "filter-value" => do
    let (i, value) ← assignment argument
    return .setFilterValue i value
  | "filter-lookup" => do
    let (i, lookup) ← assignment argument
    return .setFilterLookup i lookup
  | "default-filters" => return .applyDefaultFilters
  | "limit" => return .setLimit text
  | "model" => return .setModel text
  | _ => .error (.unknownKind kind)

/-- The command that a word stands for. -/
def parse (word : String) : Except OperationError Command :=
  match Text.cutFirst ':' word.toList with
  | some (kind, argument) => command (String.ofList kind) argument
  | none => .error (.missingKind word)

end Operation

end QueryComposer
