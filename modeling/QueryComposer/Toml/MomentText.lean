import QueryComposer.Toml.Moment

/-! # Moments as texts

  A text that has to be a moment is read as a whole. Where it is none, the fault tells
  which part is wrong and what was expected of it: first the parts have to follow one
  another, then each number needs its digits, and then the numbers have to be in range.

  - `Toml.Moment.ofText` reads a text.
  - `Toml.MomentFault.message` words what is wrong with it.
-/

namespace QueryComposer

namespace Toml

/-! ## Section 1: Faults -/

/-- The part of a moment that is wrong. -/
inductive MomentPart where
  /-- No part that could be told. -/
  | whole
  /-- The date. -/
  | date
  /-- What joins the date and the time. -/
  | joint
  /-- The time. -/
  | time
  /-- The distance from universal time. -/
  | offset
deriving DecidableEq, Repr

/-- The name of a part. -/
def MomentPart.name : MomentPart → String
  | whole => "datetime"
  | date => "date"
  | joint => "date-time"
  | time => "time"
  | offset => "offset"

/-- What is wrong with a text that has to be a moment. -/
structure MomentFault where
  /-- The part that is wrong. -/
  part : MomentPart := .whole
  /-- What was expected there, if one thing was. -/
  expected : Option String := none
deriving DecidableEq, Repr

/-- What is wrong, in words. -/
def MomentFault.message (f : MomentFault) : String :=
  "invalid " ++ f.part.name ++
    match f.expected with
    | some expected => ", expected " ++ expected
    | none => ""

/-- A part of which something was expected. -/
def MomentPart.lacks (part : MomentPart) (expected : String) : MomentFault :=
  { part, expected := some expected }

/-! ## Section 2: Steps -/

/-- The digits at the beginning of the text, of which there has to be one, and the rest. -/
def someDigits (fault : MomentFault) (cs : List Char) :
    Except MomentFault (List Char × List Char) :=
  if (cs.takeWhile Char.isDigit).isEmpty then .error fault
  else .ok (cs.takeWhile Char.isDigit, cs.dropWhile Char.isDigit)

/-- The text behind a character that it has to begin with. -/
def behindMark (fault : MomentFault) (c : Char) (cs : List Char) : Except MomentFault (List Char) :=
  match behind? c cs with
  | some rest => .ok rest
  | none => .error fault

/-- The number of digits, of which there have to be `width`. -/
def numberOf (fault : MomentFault) (width : Nat) (ds : List Char) : Except MomentFault Nat :=
  if ds.length = width then .ok (Nat.ofDigitChars 10 ds 0) else .error fault

/-- Goes on where a condition holds. -/
def demand (fault : MomentFault) (holds : Bool) : Except MomentFault Unit :=
  if holds then .ok () else .error fault

/-! ## Section 3: Parts -/

/-- The range of the days of a month. -/
def dayRange (year month : Nat) : String :=
  "day between 01 and " ++ String.ofList (Text.decimal (daysIn year month))

/-- The date at the beginning of the text, and the rest. -/
def Date.ofText (cs : List Char) : Except MomentFault (Date × List Char) := do
  let lacks := MomentPart.date.lacks
  let (year, cs) ← someDigits (lacks "year") cs
  let cs ← behindMark (lacks "`-` (YYYY-MM)") '-' cs
  let (month, cs) ← someDigits (lacks "month") cs
  let cs ← behindMark (lacks "`-` (MM-DD)") '-' cs
  let (day, cs) ← someDigits (lacks "day") cs
  let year ← numberOf (lacks "a four-digit year (YYYY)") 4 year
  let month ← numberOf (lacks "a two-digit month (MM)") 2 month
  let day ← numberOf (lacks "a two-digit day (DD)") 2 day
  demand (lacks "month between 01 and 12") (1 ≤ month && month ≤ 12)
  demand (lacks (dayRange year month)) (1 ≤ day && day ≤ daysIn year month)
  return ({ year, month, day }, cs)

/-- The digits of a second behind a point, if one begins the text, and the rest. -/
def secondFraction : List Char → Except MomentFault (List Char × List Char)
  | '.' :: cs => someDigits (MomentPart.time.lacks "nanosecond") cs
  | cs => .ok ([], cs)

/-- The time at the beginning of the text, and the rest. -/
def TimeOfDay.ofText (cs : List Char) : Except MomentFault (TimeOfDay × List Char) := do
  let lacks := MomentPart.time.lacks
  let (hour, cs) ← someDigits (lacks "hour") cs
  let cs ← behindMark (lacks "`:` (HH:MM)") ':' cs
  let (minute, cs) ← someDigits (lacks "minute") cs
  let cs ← behindMark (lacks "`:` (MM:SS)") ':' cs
  let (second, cs) ← someDigits (lacks "second") cs
  let (fraction, cs) ← secondFraction cs
  let hour ← numberOf (lacks "a two-digit hour (HH)") 2 hour
  let minute ← numberOf (lacks "a two-digit minute (MM)") 2 minute
  let second ← numberOf (lacks "a two-digit second (SS)") 2 second
  demand (lacks "hour between 00 and 23") (hour ≤ 23)
  demand (lacks "minute between 00 and 59") (minute ≤ 59)
  demand (lacks "second between 00 and 60") (second ≤ 60)
  return ({ hour, minute, second, nanosecond := billionthsOf fraction }, cs)

/-- The minutes of hours and minutes at the beginning of the text, and the rest. -/
def minutesAway (cs : List Char) : Except MomentFault (Nat × List Char) := do
  let lacks := MomentPart.offset.lacks
  let (hour, cs) ← someDigits (lacks "hour") cs
  let cs ← behindMark (lacks "`:` (HH:MM)") ':' cs
  let (minute, cs) ← someDigits (lacks "minute") cs
  let hour ← numberOf (lacks "a two-digit hour (HH)") 2 hour
  let minute ← numberOf (lacks "a two-digit minute (MM)") 2 minute
  demand (lacks "hours between 00 and 23") (hour ≤ 23)
  demand (lacks "minutes between 00 and 59") (minute ≤ 59)
  return (60 * hour + minute, cs)

/-- The distance from universal time at the beginning of the text, if there is any text,
    and the rest. -/
def Offset.ofText : List Char → Except MomentFault (Option Offset × List Char)
  | [] => .ok (none, [])
  | 'Z' :: cs => .ok (some universal, cs)
  | 'z' :: cs => .ok (some universal, cs)
  | '+' :: cs => (minutesAway cs).map fun (n, cs) => (some (minutes n), cs)
  | '-' :: cs => (minutesAway cs).map fun (n, cs) => (some (minutes (-(n : Int))), cs)
  | _ => .error (MomentPart.offset.lacks "`Z`, +OFFSET, -OFFSET")

/-! ## Section 4: Moments -/

/-- The moment of a date and of the text behind it. -/
def Moment.ofDateAndText (d : Date) : List Char → Except MomentFault Moment
  | [] => .ok (date d)
  | c :: cs => do
    demand (MomentPart.joint.lacks "`T` between date and time") (c = 'T' || c = 't' || c = ' ')
    let (t, cs) ← TimeOfDay.ofText cs
    let (offset, cs) ← Offset.ofText cs
    demand {} cs.isEmpty
    return dateTime d t offset

/-- The moment that a text is. -/
def Moment.ofText (cs : List Char) : Except MomentFault Moment := do
  let (_, rest) ← someDigits (MomentPart.whole.lacks "year or hour") cs
  match rest.head? with
  | some '-' =>
    let (d, cs) ← Date.ofText cs
    ofDateAndText d cs
  | some ':' =>
    let (t, cs) ← TimeOfDay.ofText cs
    demand {} cs.isEmpty
    return time t
  | _ => .error (MomentPart.whole.lacks "`-` (YYYY-MM) or `:` (HH:MM)")

end Toml

end QueryComposer
