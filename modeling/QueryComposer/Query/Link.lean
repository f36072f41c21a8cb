import QueryComposer.Query.Basic

/-! # Links

  Where the result of a query can be downloaded, and where the query can be sent
  to be kept as a view. A link starts with the origin of the page, as it is given.
-/

namespace QueryComposer

/-- The format of a download. -/
inductive Download where
  | csv
  | json
deriving DecidableEq, Repr, Inhabited

namespace Download

/-- The ending of links to the format. -/
def ending : Download → String
  | csv => "csv"
  | json => "json"

/-- The format of an ending, in letters of either case. No letter beyond ASCII has a
    small form among the letters of the endings. -/
def ofEnding? (s : String) : Option Download :=
  match String.ofList (s.toList.map Char.toLower) with
  | "csv" => some csv
  | "json" => some json
  | _ => none

end Download

namespace Query

/-- The link to the result of a query in a format. -/
def downloadLink (origin : String) (s : Schema) (q : Query) (format : Download) : String :=
  let p := q.parts
  origin ++ s.baseUrl ++ "query/" ++ p.model ++ "/" ++ p.fields ++ "." ++ format.ending
    ++ "?" ++ p.query

/-- The link that hands the query over to be kept as a view. -/
def saveLink (origin : String) (s : Schema) (q : Query) : String :=
  origin ++ s.adminUrl ++ "?" ++ q.parts.form

end Query

end QueryComposer
