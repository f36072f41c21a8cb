import QueryComposer.Error

/-! # Failures

  Why a run of the program comes to nothing. Where the error alone would not tell what
  was being done, a headline does, and the error explains it.
-/

namespace QueryComposer

/-- Why a run comes to nothing. -/
inductive Failure where
  /-- A step of it was turned down. -/
  | refused (e : QueryError)
  /-- The texts do not describe a query on the model. -/
  | unparsable (model : String) (e : QueryError)
  /-- There is no schema to work on. -/
  | missingSchema
deriving DecidableEq, Repr

namespace Failure

/-- What comes first in the report of a failure. -/
def headline : Failure → String
  | refused e => e.message
  | unparsable model _ => "cannot parse query on " ++ model
  | missingSchema => "no schema given: pass --schema or set DDB_SCHEMA_PATH"

/-- What explains the headline, where it does not explain itself. -/
def cause? : Failure → Option String
  | unparsable _ e => some e.message
  | _ => none

/-- The error that is behind a failure. -/
def error? : Failure → Option QueryError
  | refused e => some e
  | unparsable _ e => some e
  | missingSchema => none

/-- The failure in one sentence. -/
def sentence (f : Failure) : String :=
  match f.cause? with
  | some cause => f.headline ++ ": " ++ cause
  | none => f.headline

/-- One character of text that is indented by four spaces on every line. -/
def indentedChar (c : Char) : List Char :=
  if c = '\n' then '\n' :: List.replicate 4 ' ' else [c]

/-- The text indented by four spaces on every line. -/
def indented (s : String) : String :=
  String.ofList (List.replicate 4 ' ' ++ s.toList.flatMap indentedChar)

/-- The report of a failure. -/
def report (f : Failure) : String :=
  "Error: " ++ f.headline ++
    match f.cause? with
    | some cause => "\n\nCaused by:\n" ++ indented cause
    | none => ""

end Failure

end QueryComposer
