import QueryComposer.Text.Cut
import QueryComposer.Text.Numeral

/-! # Dates and times of TOML

  A moment is a date, a time of the day, or a date with a time, to which the distance
  from universal time may be added. It is read at the beginning of a text and written in
  one form: a capital `T` between date and time, a capital `Z` for universal time, and
  no more digits of a second than it needs.

  - `Toml.Moment.read?` reads a moment; days are those of the calendar, and a minute may
    have a leap second.
  - `Toml.Moment.text` writes it.
-/

namespace QueryComposer

namespace Toml

/-- A day of the calendar. -/
structure Date where
  /-- The year, of four digits. -/
  year : Nat
  /-- The month, from 1 on. -/
  month : Nat
  /-- The day of the month, from 1 on. -/
  day : Nat
deriving DecidableEq, Repr

/-- A time of the day. -/
structure TimeOfDay where
  /-- The full hours. -/
  hour : Nat
  /-- The full minutes behind the hours. -/
  minute : Nat
  /-- The full seconds behind the minutes. -/
  second : Nat
  /-- What is behind the seconds, in billionths of one. -/
  nanosecond : Nat
deriving DecidableEq, Repr

/-- How far a clock is from universal time. -/
inductive Offset where
  /-- It shows universal time. -/
  | universal
  /-- It is some minutes ahead, or behind. -/
  | minutes (n : Int)
deriving DecidableEq, Repr

/-- A date, a time or both. -/
inductive Moment where
  | date (d : Date)
  | time (t : TimeOfDay)
  | dateTime (d : Date) (t : TimeOfDay) (offset : Option Offset)
deriving DecidableEq, Repr

/-! ## Section 1: Reading -/

/-- The number of the first `count` characters, all of them digits, and the rest. -/
def digitsOf? (count : Nat) (cs : List Char) : Option (Nat × List Char) :=
  let ds := cs.take count
  if ds.length = count then (Text.natural? ds).map fun n => (n, cs.drop count) else none

/-- The number of two digits from `first` up to `last`, and the rest. -/
def part? (first last : Nat) (cs : List Char) : Option (Nat × List Char) :=
  (digitsOf? 2 cs).filter fun (n, _) => first ≤ n && n ≤ last

/-- The text behind a character that it begins with. -/
def behind? (c : Char) : List Char → Option (List Char)
  | [] => none
  | d :: cs => if d = c then some cs else none

/-- Whether the year has a leap day. -/
def isLeapYear (year : Nat) : Bool := year % 4 = 0 && (year % 100 ≠ 0 || year % 400 = 0)

/-- How many days a month has. -/
def daysIn (year month : Nat) : Nat :=
  if month = 2 then if isLeapYear year then 29 else 28
  else if month = 4 || month = 6 || month = 9 || month = 11 then 30
  else 31

/-- The date at the beginning of the text, and the rest. -/
def Date.read? (cs : List Char) : Option (Date × List Char) := do
  let (year, cs) ← digitsOf? 4 cs
  let (month, cs) ← part? 1 12 (← behind? '-' cs)
  let (day, cs) ← part? 1 (daysIn year month) (← behind? '-' cs)
  return ({ year, month, day }, cs)

/-- How many digits of a second count. -/
def secondDigits : Nat := 9

/-- The billionths of a second that the digits behind its point give. Digits beyond
    billionths are dropped. -/
def billionthsOf (ds : List Char) : Nat :=
  Nat.ofDigitChars 10 ((ds ++ List.replicate secondDigits '0').take secondDigits) 0

/-- The billionths of a second at the beginning of the text, 0 if none are given, and the
    rest. -/
def billionths (cs : List Char) : Nat × List Char :=
  let ds := (cs.drop 1).takeWhile Char.isDigit
  if cs.head? = some '.' && !ds.isEmpty then
    (billionthsOf ds, (cs.drop 1).dropWhile Char.isDigit)
  else (0, cs)

/-- The time at the beginning of the text, and the rest. -/
def TimeOfDay.read? (cs : List Char) : Option (TimeOfDay × List Char) := do
  let (hour, cs) ← part? 0 23 cs
  let (minute, cs) ← part? 0 59 (← behind? ':' cs)
  let (second, cs) ← part? 0 60 (← behind? ':' cs)
  let (nanosecond, cs) := billionths cs
  return ({ hour, minute, second, nanosecond }, cs)

/-- The minutes of hours and minutes at the beginning of the text, and the rest. -/
def minutesAway? (cs : List Char) : Option (Nat × List Char) := do
  let (hour, cs) ← part? 0 23 cs
  let (minute, cs) ← part? 0 59 (← behind? ':' cs)
  return (60 * hour + minute, cs)

/-- The distance from universal time at the beginning of the text, and the rest. -/
def Offset.read? : List Char → Option (Offset × List Char)
  | 'Z' :: cs => some (universal, cs)
  | 'z' :: cs => some (universal, cs)
  | '+' :: cs => (minutesAway? cs).map fun (n, cs) => (minutes n, cs)
  | '-' :: cs => (minutesAway? cs).map fun (n, cs) => (minutes (-(n : Int)), cs)
  | _ => none

/-- The time behind a date, in front of which a letter or a space stands, and the rest. -/
def timeBehind? : List Char → Option (TimeOfDay × List Char)
  | 'T' :: cs => TimeOfDay.read? cs
  | 't' :: cs => TimeOfDay.read? cs
  | ' ' :: cs => TimeOfDay.read? cs
  | _ => none

/-- The moment at the beginning of the text, and the rest. -/
def Moment.read? (cs : List Char) : Option (Moment × List Char) :=
  match Date.read? cs with
  | none => (TimeOfDay.read? cs).map fun (t, rest) => (time t, rest)
  | some (d, cs) =>
    match timeBehind? cs with
    | none => some (date d, cs)
    | some (t, cs) =>
      match Offset.read? cs with
      | none => some (dateTime d t none, cs)
      | some (offset, rest) => some (dateTime d t (some offset), rest)

/-! ## Section 2: Writing -/

/-- The numeral of a number, with zeros in front up to some width. -/
def padded (width n : Nat) : List Char :=
  let ds := Text.decimal n
  List.replicate (width - ds.length) '0' ++ ds

/-- The text of a date. -/
def Date.text (d : Date) : List Char :=
  padded 4 d.year ++ '-' :: padded 2 d.month ++ '-' :: padded 2 d.day

/-- The text of a time. -/
def TimeOfDay.text (t : TimeOfDay) : List Char :=
  padded 2 t.hour ++ ':' :: padded 2 t.minute ++ ':' :: padded 2 t.second ++
    if t.nanosecond = 0 then []
    else '.' :: Text.dropTrailing '0' (padded secondDigits t.nanosecond)

/-- The text of a distance from universal time. -/
def Offset.text : Offset → List Char
  | universal => ['Z']
  | minutes n =>
    (if n < 0 then '-' else '+') ::
      padded 2 (n.natAbs / 60) ++ ':' :: padded 2 (n.natAbs % 60)

/-- The text of a moment. -/
def Moment.text : Moment → List Char
  | date d => d.text
  | time t => t.text
  | dateTime d t none => d.text ++ 'T' :: t.text
  | dateTime d t (some offset) => d.text ++ 'T' :: t.text ++ offset.text

end Toml

end QueryComposer
