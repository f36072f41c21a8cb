import QueryComposer.Binary64.Decimal
import QueryComposer.Json.Basic

/-! # Reading documents

  A document is one JSON value with nothing but white space around it, in the
  strict grammar: no comments, no trailing commas, no leading zeros, no control
  characters inside strings. Containers may nest `nestingLimit` levels deep;
  a deeper one is `unreadable`, like a string that is not made of characters
  and a number beyond the doubles.
-/

namespace QueryComposer.Json

/-! ## Section 1: Strings -/

/-- What one place of a string holds: a character, or a code given in base sixteen. -/
inductive Unit16 where
  | char (c : Char)
  | code (n : Nat)
deriving DecidableEq, Repr

/-- The character after a backslash, other than a code. -/
def escaped? : Char → Option Char
  | '"' => some '"'
  | '\\' => some '\\'
  | '/' => some '/'
  | 'b' => some '\x08'
  | 'f' => some '\x0c'
  | 'n' => some '\n'
  | 'r' => some '\r'
  | 't' => some '\t'
  | _ => none

/-- The code written with four digits in base sixteen. -/
def code? (a b c d : Char) : Option Nat := do
  return (((← Text.hexValue? a) * 16 + (← Text.hexValue? b)) * 16 + (← Text.hexValue? c)) * 16
    + (← Text.hexValue? d)

/-- The places of a string whose opening quote has been read, and the text after
    its closing quote. -/
def stringBody : List Char → Option (List Unit16 × List Char)
  | [] => none
  | '"' :: cs => some ([], cs)
  | '\\' :: 'u' :: a :: b :: c :: d :: cs => do
    let n ← code? a b c d
    let (units, rest) ← stringBody cs
    return (.code n :: units, rest)
  | '\\' :: c :: cs => do
    let e ← escaped? c
    let (units, rest) ← stringBody cs
    return (.char e :: units, rest)
  | c :: cs =>
    if c.toNat < 0x20 then none
    else (stringBody cs).map fun (units, rest) => (.char c :: units, rest)

/-- The characters that the places stand for; two codes may form a surrogate pair,
    and half a pair stands for none. -/
def characters? : List Unit16 → Option (List Char)
  | [] => some []
  | .char c :: units => (characters? units).map (c :: ·)
  | .code high :: .code low :: units =>
    if 0xD800 ≤ high && high < 0xDC00 then
      if 0xDC00 ≤ low && low < 0xE000 then
        let n := 0x10000 + (high - 0xD800) * 0x400 + (low - 0xDC00)
        (characters? units).map (Char.ofNat n :: ·)
      else none
    else if 0xDC00 ≤ high && high < 0xE000 then none
    else (characters? (.code low :: units)).map (Char.ofNat high :: ·)
  | .code n :: units =>
    if 0xD800 ≤ n && n < 0xE000 then none
    else (characters? units).map (Char.ofNat n :: ·)

/-- The string that the places form, where they form one. -/
def stringOf? (units : List Unit16) : Option String := (characters? units).map String.ofList

/-! ## Section 2: Numbers -/

/-- The parts of a number as written. -/
structure Numeral where
  /-- Whether a minus sign stands before it. -/
  negative : Bool
  /-- The digits before the point. -/
  whole : List Char
  /-- The digits after the point, if there is one. -/
  fraction : Option (List Char)
  /-- The power of ten, if one is given. -/
  power : Option Int
deriving DecidableEq, Repr

/-- The digits at the beginning, of which there is at least one, and the rest. -/
def digits? (cs : List Char) : Option (List Char × List Char) :=
  let ds := cs.takeWhile Char.isDigit
  if ds.isEmpty then none else some (ds, cs.dropWhile Char.isDigit)

/-- The digits before the point: a zero alone, or digits that begin with another one. -/
def wholePart? (cs : List Char) : Option (List Char × List Char) := do
  let (ds, rest) ← digits? cs
  if ds.head? = some '0' && 1 < ds.length then none else some (ds, rest)

/-- The point and the digits after it, where there is a point. -/
def fractionPart? : List Char → Option (Option (List Char) × List Char)
  | '.' :: cs => (digits? cs).map fun (ds, rest) => (some ds, rest)
  | cs => some (none, cs)

/-- The digits of a power of ten as a number with a sign. -/
def powerDigits? (negative : Bool) (cs : List Char) : Option (Option Int × List Char) :=
  (digits? cs).map fun (ds, rest) =>
    let n : Int := Nat.ofDigitChars 10 ds 0
    (some (if negative then -n else n), rest)

/-- The letter and the power of ten, where they are given. -/
def powerPart? : List Char → Option (Option Int × List Char)
  | c :: cs =>
    if c = 'e' || c = 'E' then
      match cs with
      | '+' :: ds => powerDigits? false ds
      | '-' :: ds => powerDigits? true ds
      | ds => powerDigits? false ds
    else some (none, c :: cs)
  | [] => some (none, [])

/-- The number at the beginning of the text, and the rest. -/
def numeral? (cs : List Char) : Option (Numeral × List Char) := do
  let (negative, cs) := match cs with
    | '-' :: cs => (true, cs)
    | cs => (false, cs)
  let (whole, cs) ← wholePart? cs
  let (fraction, cs) ← fractionPart? cs
  let (power, cs) ← powerPart? cs
  return (⟨negative, whole, fraction, power⟩, cs)

/-- Adds digits to a number while it stays within 64 bits, and gives the digits left. -/
def fitting : Nat → List Char → Nat × List Char
  | n, [] => (n, [])
  | n, c :: cs =>
    let next := 10 * n + (c.toNat - '0'.toNat)
    if next < Nat.pow 2 64 then fitting next cs else (n, c :: cs)

/-- The value of a number: an integer where it is written as one and fits, and else
    the double that its first digits, as many as fit into 64 bits, are scaled to. -/
def Numeral.value? (x : Numeral) : Option Number :=
  let (n, left) := fitting 0 x.whole
  match x.fraction, x.power, left with
  | none, none, [] =>
    if !x.negative then some (.integer n)
    else if n = 0 || Nat.pow 2 63 < n then (Binary64.ofScaled true ⟨n, 0⟩).map .real
    else some (.integer (-n))
  | fraction, power, left =>
    let after := fraction.getD []
    let (m, unused) := fitting n after
    let used := after.length - unused.length
    let exponent : Int := (left.length : Int) - used + power.getD 0
    (Binary64.ofScaled x.negative ⟨m, exponent⟩).map .real

/-! ## Section 3: Values -/

/-- How deeply containers may nest. -/
def nestingLimit : Nat := 127

/-- The text without the white space at its beginning. -/
def skipBlank (cs : List Char) : List Char :=
  cs.dropWhile fun c => c = ' ' || c = '\t' || c = '\n' || c = '\r'

/-- The value of a container at a level of nesting. -/
def atLevel (level : Nat) (v : Json) : Json := if level ≤ nestingLimit then v else .unreadable

/-- The object of some members; a name that is no string makes it unreadable. -/
def ofMembers (members : List (Option String × Json)) : Json :=
  match members.mapM fun (name, v) => name.map fun s => (s, v) with
  | some ms => .object ms
  | none => .unreadable

mutual

/-- The value at the beginning of the text, inside `level` containers, and the rest. -/
def valueFrom : Nat → Nat → List Char → Option (Json × List Char)
  | 0, _, _ => none
  | fuel + 1, level, cs =>
    match skipBlank cs with
    | '{' :: cs =>
      match skipBlank cs with
      | '}' :: rest => some (atLevel (level + 1) (.object []), rest)
      | cs => (membersFrom fuel (level + 1) cs).map fun (ms, rest) =>
          (atLevel (level + 1) (ofMembers ms), rest)
    | '[' :: cs =>
      match skipBlank cs with
      | ']' :: rest => some (atLevel (level + 1) (.array []), rest)
      | cs => (itemsFrom fuel (level + 1) cs).map fun (vs, rest) =>
          (atLevel (level + 1) (.array vs), rest)
    | '"' :: cs => (stringBody cs).map fun (units, rest) =>
        (((stringOf? units).map Json.string).getD .unreadable, rest)
    | 't' :: 'r' :: 'u' :: 'e' :: rest => some (.bool true, rest)
    | 'f' :: 'a' :: 'l' :: 's' :: 'e' :: rest => some (.bool false, rest)
    | 'n' :: 'u' :: 'l' :: 'l' :: rest => some (.null, rest)
    | cs => (numeral? cs).map fun (x, rest) => ((x.value?.map Json.number).getD .unreadable, rest)

/-- The items up to the closing bracket, of which there is at least one, and the rest. -/
def itemsFrom : Nat → Nat → List Char → Option (List Json × List Char)
  | 0, _, _ => none
  | fuel + 1, level, cs => do
    let (v, rest) ← valueFrom fuel level cs
    match skipBlank rest with
    | ',' :: rest => (itemsFrom fuel level rest).map fun (vs, rest) => (v :: vs, rest)
    | ']' :: rest => some ([v], rest)
    | _ => none

/-- The members up to the closing brace, of which there is at least one, and the rest. -/
def membersFrom : Nat → Nat → List Char → Option (List (Option String × Json) × List Char)
  | 0, _, _ => none
  | fuel + 1, level, cs =>
    match skipBlank cs with
    | '"' :: cs => do
      let (units, rest) ← stringBody cs
      match skipBlank rest with
      | ':' :: rest =>
        let (v, rest) ← valueFrom fuel level rest
        match skipBlank rest with
        | ',' :: rest =>
          (membersFrom fuel level rest).map fun (ms, rest) => ((stringOf? units, v) :: ms, rest)
        | '}' :: rest => some ([(stringOf? units, v)], rest)
        | _ => none
      | _ => none
    | _ => none

end

/-- The value of a document. Every step of reading takes a character within two calls,
    so that twice the length of the text bounds their number. -/
def parse? (document : String) : Option Json := do
  let cs := document.toList
  let (v, rest) ← valueFrom (2 * cs.length + 2) 0 cs
  if (skipBlank rest).isEmpty then some v else none

end QueryComposer.Json
