import QueryComposer.Text.Numeral

/-! # Text of TOML

  What stands between the values of a TOML document, and its strings. Blanks are spaces
  and tabs; a line ends with a line feed, in front of which a carriage return may stand,
  and a comment reaches from a hash sign to the end of its line.

  - `Toml.skipBlank`, `Toml.skipSpace` and `Toml.skipLines` pass over what says nothing.
  - `Toml.string?` reads a string of one of four kinds: between single or double quotes,
    on one line or on several.
-/

namespace QueryComposer

namespace Toml

/-! ## Section 1: Blanks and lines -/

/-- The text without the blanks at its beginning. -/
def skipBlank (cs : List Char) : List Char := cs.dropWhile fun c => c = ' ' || c = '\t'

/-- Whether a character may stand in comments and strings: all but controls, and the tab. -/
def isPlain (c : Char) : Bool := c = '\t' || (0x20 ≤ c.toNat && c.toNat ≠ 0x7F)

/-- The text behind a comment, if there is one. -/
def skipComment (cs : List Char) : List Char :=
  if cs.head? = some '#' then cs.dropWhile isPlain else cs

/-- The text behind a line break. -/
def newline? : List Char → Option (List Char)
  | '\n' :: cs => some cs
  | '\r' :: '\n' :: cs => some cs
  | _ => none

/-- The text behind blanks and line breaks, of which `fuel` are passed over. -/
def skipSpace : Nat → List Char → List Char
  | 0, cs => cs
  | fuel + 1, cs =>
    match newline? (skipBlank cs) with
    | some rest => skipSpace fuel rest
    | none => skipBlank cs

/-- The text behind blanks, comments and line breaks, of which `fuel` are passed over. -/
def skipLines : Nat → List Char → List Char
  | 0, cs => cs
  | fuel + 1, cs =>
    match newline? (skipComment (skipBlank cs)) with
    | some rest => skipLines fuel rest
    | none => skipBlank cs

/-- The text behind the end of a line, where a comment may stand. -/
def lineEnd? (cs : List Char) : Option (List Char) :=
  match skipComment (skipBlank cs) with
  | [] => some []
  | rest => newline? rest

/-! ## Section 2: Strings -/

/-- The character of a code in base sixteen; half a surrogate pair is none. -/
def codePoint? (digits : List Char) : Option Char := do
  let ds ← digits.mapM Text.hexValue?
  let n := ds.foldl (fun n d => 16 * n + d) 0
  if n.isValidChar then some (Char.ofNat n) else none

/-- The character that stands behind a backslash, and the rest. -/
def escape? : List Char → Option (Char × List Char)
  | 'b' :: cs => some ('\x08', cs)
  | 't' :: cs => some ('\t', cs)
  | 'n' :: cs => some ('\n', cs)
  | 'f' :: cs => some ('\x0c', cs)
  | 'r' :: cs => some ('\r', cs)
  | '"' :: cs => some ('"', cs)
  | '\\' :: cs => some ('\\', cs)
  | 'u' :: a :: b :: c :: d :: cs => (codePoint? [a, b, c, d]).map fun e => (e, cs)
  | 'U' :: a :: b :: c :: d :: e :: f :: g :: h :: cs =>
    (codePoint? [a, b, c, d, e, f, g, h]).map fun e => (e, cs)
  | _ => none

/-- The string up to the closing quote, and the rest. Between double quotes a backslash
    takes the meaning from the next character. -/
def lineString? (quote : Char) : Nat → List Char → Option (List Char × List Char)
  | 0, _ => none
  | _, [] => none
  | fuel + 1, c :: cs =>
    if c = quote then some ([], cs)
    else if c = '\\' && quote = '"' then do
      let (e, rest) ← escape? cs
      let (text, rest) ← lineString? quote fuel rest
      return (e :: text, rest)
    else if isPlain c then (lineString? quote fuel cs).map fun (text, rest) => (c :: text, rest)
    else none

/-- How many quotes end a string of several lines. -/
def closingQuotes : Nat := 3

/-- The string of several lines up to its closing quotes, in front of which up to two
    quotes may stand, and the rest. Between double quotes a backslash at the end of a
    line joins it to the next text. -/
def blockString? (quote : Char) : Nat → List Char → Option (List Char × List Char)
  | 0, _ => none
  | _, [] => none
  | fuel + 1, c :: cs =>
    if c = quote then
      let run := (c :: cs).takeWhile (· = quote)
      if run.length < closingQuotes then
        (blockString? quote fuel cs).map fun (text, rest) => (c :: text, rest)
      else
        let inside := min (run.length - closingQuotes) (closingQuotes - 1)
        some (List.replicate inside quote, (c :: cs).drop (inside + closingQuotes))
    else if c = '\\' && quote = '"' then
      match newline? (skipBlank cs) with
      | some rest => blockString? quote fuel (skipSpace (rest.length + 1) rest)
      | none => do
        let (e, rest) ← escape? cs
        let (text, rest) ← blockString? quote fuel rest
        return (e :: text, rest)
    else
      match newline? (c :: cs) with
      | some rest => (blockString? quote fuel rest).map fun (text, rest) => ('\n' :: text, rest)
      | none =>
        if isPlain c then (blockString? quote fuel cs).map fun (text, rest) => (c :: text, rest)
        else none

/-- The string at the beginning of a text that begins with a quote, and the rest. -/
def string? (quote : Char) (cs : List Char) : Option (List Char × List Char) :=
  let fuel := cs.length + 1
  if cs.take closingQuotes = List.replicate closingQuotes quote then
    let body := cs.drop closingQuotes
    blockString? quote fuel ((newline? body).getD body)
  else lineString? quote fuel (cs.drop 1)

end Toml

end QueryComposer
