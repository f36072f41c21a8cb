import QueryComposer.Environment.Basic
import QueryComposer.Text.Alphanumeric
import QueryComposer.Text.Blank
import QueryComposer.Text.Cut

/-! # Environment files

  A file of variables has one assignment a line, such as `NAME=value`, with blank
  lines and comments between them. Text in double quotes or single quotes may go on
  over several lines, and a backslash takes the meaning from the next character.
  A dollar sign stands before the name of a variable, whose text takes its place.

  - `EnvironmentFile.lines` joins the lines of the file that belong together.
  - `EnvironmentFile.value?` reads the text behind the equals sign.
  - `Environment.load?` adds the variables up to the first line that is malformed.
-/

namespace QueryComposer

namespace EnvironmentFile

/-! ## Section 1: Lines -/

/-- Where in an assignment the text stands. -/
inductive Place where
  /-- Outside quotes. -/
  | outside
  /-- Outside quotes, right behind white space. -/
  | afterBlank
  /-- Outside quotes, right behind a backslash. -/
  | escaped
  /-- Between double quotes. -/
  | weak
  /-- Between double quotes, right behind a backslash. -/
  | weakEscaped
  /-- Between single quotes. -/
  | strong
  /-- Between single quotes, right behind a backslash. -/
  | strongEscaped
deriving DecidableEq, Repr

namespace Place

/-- The place that a character outside quotes leads to. -/
def opened (c : Char) : Place :=
  if c = '\\' then .escaped
  else if c = '"' then .weak
  else if c = '\'' then .strong
  else .outside

/-- The place behind a character; none where a comment begins with it. -/
def next? (c : Char) : Place → Option Place
  | .outside =>
    if Text.isBlank c && c ≠ '\n' && c ≠ '\r' then some .afterBlank else some (opened c)
  | .afterBlank => if c = '#' then none else some (opened c)
  | .escaped => some .outside
  | .weak => some (if c = '\\' then .weakEscaped else if c = '"' then .outside else .weak)
  | .weakEscaped => some .weak
  | .strong => some (if c = '\\' then .strongEscaped else if c = '\'' then .outside else .strong)
  | .strongEscaped => some .strong

/-- The text up to a comment, and the place at its end, which a comment leaves outside
    quotes. -/
def scan (place : Place) : List Char → List Char × Place
  | [] => ([], place)
  | c :: cs =>
    match place.next? c with
    | none => ([], .outside)
    | some after => let (kept, last) := after.scan cs; (c :: kept, last)

end Place

/-- The lines of a text, each with the character that ends it. -/
def physicalLines : List Char → List (List Char)
  | [] => []
  | c :: cs =>
    if c = '\n' then [c] :: physicalLines cs
    else
      match physicalLines cs with
      | [] => [[c]]
      | line :: lines => (c :: line) :: lines

/-- The line without the characters that end it. -/
def withoutEnd (line : List Char) : List Char :=
  match line.reverse with
  | '\n' :: '\r' :: cs => cs.reverse
  | '\n' :: cs => cs.reverse
  | _ => line

/-- The lines of the file, where `begun` has been read of the one that `place` is in.
    A line that begins as a comment is empty. One that the end of the file cuts off,
    be it in quotes or right behind a blank, is not there at all. -/
def joinLines (begun : List Char) (place : Place) : List (List Char) → List (List Char)
  | [] => []
  | line :: lines =>
    let whole := begun ++ line
    if (Text.trimLeft whole).head? = some '#' then [] :: joinLines [] .outside lines
    else
      match place.scan line with
      | (kept, .outside) =>
        let text := if kept.length = line.length then withoutEnd whole else begun ++ kept
        text :: joinLines [] .outside lines
      | (_, after) => joinLines whole after lines

/-- The lines of the file; a mark of the byte order at its beginning is no part of it. -/
def lines (text : String) : List (List Char) :=
  joinLines [] .outside (physicalLines (Text.behindOrderMark text.toList))

/-! ## Section 2: Values -/

/-- What is being read of a value. -/
inductive Reading where
  /-- Text, between double quotes or outside quotes. -/
  | text (quoted : Bool)
  /-- Text between single quotes. -/
  | literal
  /-- The character behind a backslash. -/
  | escape (quoted : Bool)
  /-- The name of a variable, between braces or not, as far as it has been read. -/
  | name (quoted braced : Bool) (begun : List Char)
  /-- What follows the value. -/
  | finished
deriving DecidableEq, Repr

/-- The text of a variable, empty where there is none. -/
def substitute (env : Environment) (name : List Char) : List Char :=
  ((env.get? (String.ofList name)).getD "").toList

/-- The characters that a backslash may stand before, and what they stand for then. -/
def escaped? : Char → Option Char
  | 'n' => some '\n'
  | '\\' => some '\\'
  | '\'' => some '\''
  | '"' => some '"'
  | '$' => some '$'
  | ' ' => some ' '
  | _ => none

/-- What is read behind a character of text, and what the character adds to the value. -/
def textStep (quoted : Bool) (c : Char) : Reading × List Char :=
  if c = '$' then (.name quoted false [], [])
  else if c = '\\' then (.escape quoted, [])
  else if c = '"' then (.text !quoted, [])
  else if quoted then (.text true, [c])
  else if c = '\'' then (.literal, [])
  else if c = ' ' || c = '\t' then (.finished, [])
  else (.text false, [c])

/-- What is read behind a character, and what the character adds to the value; none
    where it cannot stand. The character that ends a bare name is part of the text,
    whatever it is, unless it begins another name. -/
def step? (env : Environment) (c : Char) : Reading → Option (Reading × List Char)
  | .finished => if c = ' ' || c = '\t' then some (.finished, []) else none
  | .escape quoted => (escaped? c).map fun e => (.text quoted, [e])
  | .literal => some (if c = '\'' then (.text false, []) else (.literal, [c]))
  | .text quoted => some (textStep quoted c)
  | .name quoted true begun =>
    if c = '\x7d' then some (.text quoted, substitute env begun)
    else some (.name quoted true (begun ++ [c]), [])
  | .name quoted false begun =>
    if Text.isAlphanumeric c then some (.name quoted false (begun ++ [c]), [])
    else if c = '\x7b' && begun.isEmpty then some (.name quoted true [], [])
    else if c = '$' then some (.name quoted false [], substitute env begun)
    else some (.text quoted, substitute env begun ++ [c])

/-- What the end of the value adds to it; none where quotes or braces are open. -/
def close? (env : Environment) : Reading → Option (List Char)
  | .text quoted => if quoted then none else some []
  | .escape quoted => if quoted then none else some []
  | .name quoted braced begun => if quoted || braced then none else some (substitute env begun)
  | .literal => none
  | .finished => some []

/-- The value that a text gives from the state of reading `r` on; behind the value
    nothing but a comment may follow. -/
def valueFrom? (env : Environment) (r : Reading) : List Char → Option (List Char)
  | [] => close? env r
  | c :: cs =>
    if r = .finished && c = '#' then some []
    else do
      let (r, added) ← step? env c r
      return added ++ (← valueFrom? env r cs)

/-- The value behind the equals sign. -/
def value? (env : Environment) (cs : List Char) : Option (List Char) :=
  if cs.isEmpty || cs.head? = some '#' then some [] else valueFrom? env (.text false) cs

/-! ## Section 3: Assignments -/

/-- The name at the beginning of a line, and the rest: letters, digits, underscores and
    points of ASCII, and first no digit and no point. -/
def name? (cs : List Char) : Option (List Char × List Char) :=
  let inName (c : Char) : Bool := c.isAlphanum || c = '_' || c = '.'
  match cs with
  | [] => none
  | c :: _ =>
    if c.isAlpha || c = '_' then some (cs.takeWhile inName, cs.dropWhile inName) else none

/-- The text behind an equals sign and the blanks around it. -/
def behindEquals? (cs : List Char) : Option (List Char) :=
  match Text.trimLeft cs with
  | '=' :: rest => some (Text.trimLeft rest)
  | _ => none

/-- The name of an assignment, and the text of its value. The word `export` may stand
    before it, and may also be the name. -/
def assignment? (line : List Char) : Option (List Char × List Char) := do
  let (name, rest) ← name? line
  match behindEquals? rest with
  | some text => some (name, text)
  | none =>
    if name = "export".toList then
      let (name, rest) ← name? (Text.trimLeft rest)
      (behindEquals? rest).map fun text => (name, text)
    else none

end EnvironmentFile

/-- The environment with the variables of some lines of a file. Each of them is known
    to the lines behind it; a malformed line ends the reading. None where a variable is to
    have a text that it cannot have. -/
def Environment.loadLines? (env : Environment) : List (List Char) → Option Environment
  | [] => some env
  | line :: lines =>
    let text := Text.trim line
    if text.isEmpty || text.head? = some '#' then env.loadLines? lines
    else
      match EnvironmentFile.assignment? text with
      | none => some env
      | some (name, text) =>
        match EnvironmentFile.value? env text with
        | none => some env
        | some value =>
          match env.supply? (String.ofList name) (String.ofList value) with
          | none => none
          | some env => env.loadLines? lines

/-- The environment with the variables of a file that it does not have by itself. -/
def Environment.load? (env : Environment) (text : String) : Option Environment :=
  env.loadLines? (EnvironmentFile.lines text)

end QueryComposer
