import QueryComposer.Toml.MomentText

/-! # Faults of TOML documents

  A document that obeys the grammar may still be no document, since a table that stands
  for a moment has to give the text of one. The report of such a fault shows the line
  where it is, with marks below the text that is wrong.

  - `Toml.Fault.report` is the report.
-/

namespace QueryComposer

namespace Toml

/-- A piece of a document, by how many characters there are from its two ends to the end
    of the document. -/
structure Span where
  /-- How many from its beginning on. -/
  fromStart : Nat
  /-- How many behind it. -/
  behind : Nat
deriving DecidableEq, Repr

/-- What is wrong with a table that stands for a moment. -/
inductive Fault where
  /-- Its text is no moment. -/
  | wrongMoment (span : Span) (f : MomentFault)
  /-- It gives no text. -/
  | noText
deriving DecidableEq, Repr

namespace Span

/-- The text in front of the piece. -/
def before (document : List Char) (span : Span) : List Char :=
  document.take (document.length - span.fromStart)

/-- The text of the piece. -/
def text (document : List Char) (span : Span) : List Char :=
  (document.drop (document.length - span.fromStart)).take (span.fromStart - span.behind)

/-- How many line breaks there are in front of the piece. -/
def line (document : List Char) (span : Span) : Nat := (span.before document).count '\n'

/-- The part of the line in front of the piece. -/
def lineBefore (document : List Char) (span : Span) : List Char :=
  ((span.before document).reverse.takeWhile (· ≠ '\n')).reverse

/-- The line that the piece begins on. -/
def lineText (document : List Char) (span : Span) : List Char :=
  span.lineBefore document ++
    (document.drop (document.length - span.fromStart)).takeWhile (· ≠ '\n')

/-- How many marks are put below the piece: as many as it has bytes, but none behind the
    end of the line, and one at least. -/
def marks (document : List Char) (span : Span) : Nat :=
  let size (cs : List Char) : Nat := (String.ofList cs).utf8ByteSize
  max 1 (min (size (span.text document))
    (size (span.lineText document) - (span.lineBefore document).length))

/-- The lines that show where the piece is. -/
def excerpt (document : List Char) (span : Span) : List Char :=
  let number := Text.decimal (span.line document + 1)
  let column := (span.lineBefore document).length
  let margin := List.replicate (number.length + 1) ' ' ++ ['|']
  "TOML parse error at line ".toList ++ number ++ ", column ".toList ++
    Text.decimal (column + 1) ++ '\n' :: margin ++
    '\n' :: number ++ " | ".toList ++ span.lineText document ++
    '\n' :: margin ++ List.replicate (column + 1) ' ' ++
    List.replicate (span.marks document) '^' ++ ['\n']

end Span

/-- The report of the fault. -/
def Fault.report (document : List Char) : Fault → String
  | wrongMoment span f => String.ofList (span.excerpt document) ++ f.message ++ "\n"
  | noText => "a table that stands for a moment gives no text"

end Toml

end QueryComposer
