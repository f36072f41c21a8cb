import QueryComposer.Binary64.Decimal
import QueryComposer.Json.Basic

/-! # Writing documents

  A value is written on one line without spaces (`compact`), or with every item
  and member on a line of its own, indented by two spaces a level (`pretty`).
-/

namespace QueryComposer.Json

/-- One character inside a string. -/
def writtenChar (c : Char) : List Char :=
  match c with
  | '"' => ['\\', '"']
  | '\\' => ['\\', '\\']
  | '\x08' => ['\\', 'b']
  | '\x0c' => ['\\', 'f']
  | '\n' => ['\\', 'n']
  | '\r' => ['\\', 'r']
  | '\t' => ['\\', 't']
  | c =>
    if c.toNat < 0x10 then '\\' :: 'u' :: '0' :: '0' :: '0' :: Text.hexadecimal c.toNat
    else if c.toNat < 0x20 then '\\' :: 'u' :: '0' :: '0' :: Text.hexadecimal c.toNat
    else [c]

/-- A string between its quotes. -/
def writtenString (s : String) : String :=
  String.ofList ('"' :: s.toList.flatMap writtenChar ++ ['"'])

/-- A number; a double always has a fraction or a power of ten. -/
def writtenNumber : Number → String
  | .integer n => String.ofList ((if n < 0 then ['-'] else []) ++ Text.decimal n.natAbs)
  | .real x => String.ofList x.documentText

/-- The parts one after another with commas between them. -/
def commaSeparated (parts : List String) : String := ",".intercalate parts

mutual

/-- The value on one line. -/
def compact : Json → String
  | .null => "null"
  | .bool true => "true"
  | .bool false => "false"
  | .number n => writtenNumber n
  | .string s => writtenString s
  | .array items => "[" ++ commaSeparated (compactItems items) ++ "]"
  | .object members => "\x7b" ++ commaSeparated (compactMembers members) ++ "\x7d"
  | .unreadable => "null"

/-- The items, each on one line. -/
def compactItems : List Json → List String
  | [] => []
  | v :: vs => compact v :: compactItems vs

/-- The members, each on one line. -/
def compactMembers : List (String × Json) → List String
  | [] => []
  | (name, v) :: ms => (writtenString name ++ ":" ++ compact v) :: compactMembers ms

end

/-- A new line that is indented by two spaces a level. -/
def lineAt (level : Nat) : String := String.ofList ('\n' :: List.replicate (2 * level) ' ')

/-- Parts on lines of their own, between the brackets of their container. -/
def spread (level : Nat) (opening closing : String) (parts : List String) : String :=
  if parts.isEmpty then opening ++ closing
  else
    let line := lineAt (level + 1)
    opening ++ line ++ (("," ++ line).intercalate parts) ++ lineAt level ++ closing

mutual

/-- The value on lines of its own, inside `level` containers. -/
def prettyAt (level : Nat) : Json → String
  | .array items => spread level "[" "]" (prettyItems (level + 1) items)
  | .object members => spread level "\x7b" "\x7d" (prettyMembers (level + 1) members)
  | .null => "null"
  | .bool true => "true"
  | .bool false => "false"
  | .number n => writtenNumber n
  | .string s => writtenString s
  | .unreadable => "null"

/-- The items on lines of their own. -/
def prettyItems (level : Nat) : List Json → List String
  | [] => []
  | v :: vs => prettyAt level v :: prettyItems level vs

/-- The members on lines of their own. -/
def prettyMembers (level : Nat) : List (String × Json) → List String
  | [] => []
  | (name, v) :: ms => (writtenString name ++ ": " ++ prettyAt level v) :: prettyMembers level ms

end

/-- The value on lines of its own. -/
def pretty (v : Json) : String := prettyAt 0 v

end QueryComposer.Json
