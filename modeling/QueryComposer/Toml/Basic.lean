import QueryComposer.Binary64.Extended
import QueryComposer.Toml.Fault

/-! # TOML values

  The entries of a document form a tree. A key leads from table to table along its names
  and makes the tables that are not there. How a table came about decides what may still
  be added to it: one that a header states, or that is written as a value, cannot be
  opened again by the names of a key, and nothing is stated twice.

  A table may stand for a moment: its first member then has a name of its own for that,
  and holds the text of the moment.

  - `Toml.Members.insert?` gives a value to a key.
  - `Toml.Members.openTable?` and `Toml.Members.openSeries?` follow a header.
  - `Toml.Members.moment` is the moment that a table stands for.
-/

namespace QueryComposer

namespace Toml

/-- How a table came about. -/
inductive TableForm where
  /-- It is written as a value. -/
  | closed
  /-- It is stated by a header, or is the document. -/
  | stated
  /-- A header leads through it. -/
  | implied
  /-- The names of a key lead through it. -/
  | dotted
deriving DecidableEq, Repr

/-- A TOML value. -/
inductive Value where
  /-- Yes or no. -/
  | truth (b : Bool)
  /-- An integer of 64 bits. -/
  | integer (n : Int)
  /-- A float. -/
  | float (x : Extended)
  /-- A string, and where it is. -/
  | string (s : String) (span : Span)
  /-- A date, a time or both. -/
  | moment (m : Moment)
  /-- A list that is written as a value. -/
  | list (items : List Value)
  /-- A table. -/
  | table (form : TableForm) (members : List (String × Value))
  /-- A list of tables that headers state one by one, the last one first. Members are
      added to the last. -/
  | series (tables : List (List (String × Value)))
deriving Repr, Inhabited

/-- The names in a table, in the order of the document, and what they stand for. -/
abbrev Members := List (String × Value)

namespace Members

/-- The members where a name stands for something else than before. -/
def put (name : String) (v : Value) : Members → Members
  | [] => [(name, v)]
  | (other, old) :: ms => if other = name then (name, v) :: ms else (other, old) :: put name v ms

/-- The members without the one of a name. -/
def without (name : String) (ms : Members) : Members := ms.filter fun m => m.1 ≠ name

/-- The members with a change to those of the table that names lead to. The names of a
    key, which are `dotted`, do not lead into a table that is stated. -/
def change? (dotted : Bool) (change : TableForm → Members → Option Members) :
    List String → TableForm → Members → Option Members
  | [], form, ms => change form ms
  | name :: names, _, ms =>
    match ms.lookup name with
    | none => do
      let form : TableForm := if dotted then .dotted else .implied
      return ms.put name (.table form (← change? dotted change names form []))
    | some (.table form inner) => do
      if form = .closed || dotted && form = .stated then none
      else return ms.put name (.table form (← change? dotted change names form inner))
    | some (.series (inner :: before)) => do
      return ms.put name (.series ((← change? dotted change names .stated inner) :: before))
    | some _ => none

/-- A change that is made where all names but the last lead to. -/
def changeAt? (dotted : Bool) (names : List String)
    (change : String → TableForm → Members → Option Members) (ms : Members) : Option Members := do
  change? dotted (change (← names.getLast?)) names.dropLast .stated ms

/-- The members with a value for a key, in a table that has nothing of the name yet. A key
    of several names ends only in a table that such a key made. -/
def insert? (key : List String) (v : Value) (ms : Members) : Option Members :=
  ms.changeAt? true key fun name form inner =>
    if (form == .dotted) == (key.length == 1) || (inner.lookup name).isSome then none
    else some (inner.put name v)

/-- The members with a table that a header states, which is the last of them even where
    other headers led through it before. -/
def openTable? (header : List String) (ms : Members) : Option Members :=
  ms.changeAt? false header fun name _ inner =>
    match inner.lookup name with
    | none => some (inner.put name (.table .stated []))
    | some (.table .implied members) =>
      some ((inner.without name).put name (.table .stated members))
    | some _ => none

/-- The members with one more table in the list that a header states. -/
def openSeries? (header : List String) (ms : Members) : Option Members :=
  ms.changeAt? false header fun name _ inner =>
    match inner.lookup name with
    | none => some (inner.put name (.series [[]]))
    | some (.series before) => some (inner.put name (.series ([] :: before)))
    | some _ => none

/-- The members with a value for a key in the table that a header states. -/
def insertUnder? (header key : List String) (v : Value) (ms : Members) : Option Members :=
  ms.change? false (fun _ inner => inner.insert? key v) header .stated

/-- The name by which a member holds the moment that its table stands for. -/
def momentName : String := "$__toml_private_datetime"

/-- Whether the table of the members stands for a moment. -/
def isMoment (ms : Members) : Bool := ms.head?.any fun m => m.1 == momentName

/-- The moment that the first of the members gives the text of. -/
def moment : Members → Except Fault Moment
  | (_, .string s span) :: _ => (Moment.ofText s.toList).mapError (.wrongMoment span)
  | _ => .error .noText

end Members

end Toml

end QueryComposer
