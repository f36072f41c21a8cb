import QueryComposer.Toml.Basic
import QueryComposer.Toml.Number
import QueryComposer.Toml.Text

/-! # Reading TOML

  A key is a name, or several with points between them. A value is a string, an integer,
  a float, a truth value, a moment, a list of values or a table on one line. Lists and
  tables are values in one another only up to some depth, and a key has no more names
  than that.

  A document is a run of lines. A line gives a value to a key, or is a header that states
  the table that the next keys belong to, or says nothing. A mark of the order of bytes
  may stand in front of it all.

  - `Toml.key?` and `Toml.value?` read what a text begins with, and leave the rest.
  - `Toml.parse?` reads a document.
-/

namespace QueryComposer

namespace Toml

/-- How deep lists and tables go, and how many names a key has at most. -/
def nestingLimit : Nat := 79

/-! ## Section 1: Keys -/

/-- Whether a character can be part of a bare name. -/
def inName (c : Char) : Bool := c.isAlphanum || c = '_' || c = '-'

/-- The name at the beginning of the text, bare or in quotes on one line, and the rest. -/
def name? (cs : List Char) : Option (String × List Char) :=
  match cs with
  | '"' :: rest => (lineString? '"' (rest.length + 1) rest).map fun (k, r) => (String.ofList k, r)
  | '\'' :: rest => (lineString? '\'' (rest.length + 1) rest).map fun (k, r) => (String.ofList k, r)
  | cs =>
    let k := cs.takeWhile inName
    if k.isEmpty then none else some (String.ofList k, cs.dropWhile inName)

/-- The names at the beginning of the text, at most `room`, and the rest. Blanks may stand
    around each. -/
def names? : Nat → List Char → Option (List String × List Char)
  | 0, _ => none
  | room + 1, cs => do
    let (name, rest) ← name? (skipBlank cs)
    match skipBlank rest with
    | '.' :: rest =>
      let (names, rest) ← names? room rest
      return (name :: names, rest)
    | rest => return ([name], rest)

/-- The key at the beginning of the text, and the rest. -/
def key? (cs : List Char) : Option (List String × List Char) := names? nestingLimit cs

/-- The key at the beginning of the text and what is behind its equals sign and blanks. -/
def keyEquals? (cs : List Char) : Option (List String × List Char) := do
  let (key, rest) ← key? cs
  return (key, skipBlank (← behind? '=' rest))

/-! ## Section 2: Words -/

/-- Whether a character is part of a word that is a value. -/
def inWord (c : Char) : Bool := c.isAlphanum || c = '_' || c = '-' || c = '+' || c = '.'

/-- The value of a word: a truth value, an integer of 64 bits or a float. -/
def word? (cs : List Char) : Option Value :=
  match String.ofList cs with
  | "true" => some (.truth true)
  | "false" => some (.truth false)
  | _ =>
    match integer? cs with
    | some n =>
      if -(Nat.pow 2 63 : Int) ≤ n && n < (Nat.pow 2 63 : Int) then some (.integer n) else none
    | none => (float? cs).map .float

/-- The moment or the word at the beginning of the text, and the rest. -/
def plain? (cs : List Char) : Option (Value × List Char) :=
  match Moment.read? cs with
  | some (m, rest) => some (.moment m, rest)
  | none => (word? (cs.takeWhile inWord)).map fun v => (v, cs.dropWhile inWord)

/-- The string at the beginning of the text, and the rest. -/
def quoted? (quote : Char) (cs : List Char) : Option (Value × List Char) :=
  (string? quote cs).map fun (s, rest) =>
    (.string (String.ofList s) { fromStart := cs.length, behind := rest.length }, rest)

/-! ## Section 3: Values -/

mutual

/-- The value at the beginning of the text, in which lists and tables go `room` deep, and
    the rest. -/
def valueFrom? : Nat → Nat → List Char → Option (Value × List Char)
  | 0, _, _ => none
  | fuel + 1, room, cs =>
    match cs with
    | '"' :: _ => quoted? '"' cs
    | '\'' :: _ => quoted? '\'' cs
    | '[' :: cs =>
      if room = 0 then none
      else
        (itemsFrom? fuel (room - 1) (skipLines cs.length cs)).map fun (items, rest) =>
          (.list items, rest)
    | '\x7b' :: cs =>
      if room = 0 then none
      else
        match skipBlank cs with
        | '\x7d' :: rest => some (.table .closed [], rest)
        | cs =>
          (membersFrom? fuel (room - 1) [] cs).map fun (members, rest) =>
            (.table .closed members, rest)
    | cs => plain? cs

/-- The items of a list up to its closing bracket, and the rest. -/
def itemsFrom? : Nat → Nat → List Char → Option (List Value × List Char)
  | 0, _, _ => none
  | _, _, ']' :: rest => some ([], rest)
  | fuel + 1, room, cs => do
    let (v, rest) ← valueFrom? fuel room cs
    match skipLines rest.length rest with
    | ',' :: rest =>
      let (items, rest) ← itemsFrom? fuel room (skipLines rest.length rest)
      return (v :: items, rest)
    | ']' :: rest => return ([v], rest)
    | _ => none

/-- The members of a table up to its closing brace, added to those `before`, and the
    rest. -/
def membersFrom? : Nat → Nat → Members → List Char → Option (Members × List Char)
  | 0, _, _, _ => none
  | fuel + 1, room, before, cs => do
    let (key, rest) ← keyEquals? cs
    let (v, rest) ← valueFrom? fuel room rest
    let members ← before.insert? key v
    match skipBlank rest with
    | ',' :: rest => membersFrom? fuel room members rest
    | '\x7d' :: rest => return (members, rest)
    | _ => none

end

/-- The value at the beginning of the text, and the rest. -/
def value? (cs : List Char) : Option (Value × List Char) :=
  valueFrom? (cs.length + 1) nestingLimit cs

/-! ## Section 4: Documents -/

/-- What lines of a text add to the members `before`, where keys belong to the table of a
    `header`. -/
def linesFrom? : Nat → List String → Members → List Char → Option Members
  | 0, _, _, _ => none
  | fuel + 1, header, before, cs =>
    match skipComment (skipLines cs.length cs) with
    | [] => some before
    | '[' :: '[' :: cs => do
      let (header, rest) ← key? cs
      let rest ← lineEnd? (← behind? ']' (← behind? ']' rest))
      linesFrom? fuel header (← before.openSeries? header) rest
    | '[' :: cs => do
      let (header, rest) ← key? cs
      let rest ← lineEnd? (← behind? ']' rest)
      linesFrom? fuel header (← before.openTable? header) rest
    | cs => do
      let (key, rest) ← keyEquals? cs
      let (v, rest) ← value? rest
      let rest ← lineEnd? rest
      linesFrom? fuel header (← before.insertUnder? header key v) rest

/-- The table that a document is. -/
def parse? (document : String) : Option Value :=
  let cs := Text.behindOrderMark document.toList
  (linesFrom? (cs.length + 1) [] [] cs).map (.table .stated)

end Toml

end QueryComposer
