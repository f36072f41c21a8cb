import QueryComposer.Environment.Basic
import QueryComposer.Settings.Basic
import QueryComposer.Text.Blank

/-! # Settings in the environment

  Each setting has a variable of its own. One that is not there leaves the setting
  at its default; a row limit that is no positive number of 32 bits is refused.
-/

namespace QueryComposer

namespace Settings

/-- The row limit that a variable gives, with any white space around it. -/
def limitOfText (raw : String) : Except QueryError Nat :=
  match (Text.unsignedBelow? (Nat.pow 2 32) (Text.trim raw.toList)).filter (1 ≤ ·) with
  | some n => .ok n
  | none =>
    .error (.configuration
      ("DDB_DEFAULT_LIMIT must be a positive integer, got " ++ Text.quoted raw))

/-- The settings that the variables of a program give. -/
def ofEnvironment (env : Environment) : Except QueryError Settings := do
  let usual : Settings := {}
  let defaultLimit ← match env.get? "DDB_DEFAULT_LIMIT" with
    | some raw => limitOfText raw
    | none => pure usual.defaultLimit
  return {
    origin := (env.get? "DDB_ORIGIN").getD usual.origin
    schemaPath := env.get? "DDB_SCHEMA_PATH"
    defaultLimit
    logFilter := (env.get? "DDB_LOG").getD usual.logFilter }

end Settings

end QueryComposer
