import QueryComposer.CommandLine.Operation

/-! # Words of the command line

  The words of a command line are options, values of options, operands, and the name of
  a command, behind which the words belong to that command. An option is written
  `--name`, with its value behind an equals sign or in the next word. Behind two dashes
  alone every word is an operand.

  - `Level` says which words are understood at one place, and `Level.scan` reads them.
  - An option whose value may still follow is pending; `Scan.settle` judges it once the
    next option or operand is there. So a word that nobody knows is reported before a
    value that is wrong.
-/

namespace QueryComposer

/-- Why the words of a command line are not carried out. -/
inductive UsageError where
  /-- Help was asked for. -/
  | help
  /-- The version was asked for. -/
  | version
  /-- Nothing was given at all, so that help is shown. -/
  | nothingGiven
  /-- No command was given. -/
  | missingCommand
  /-- There is no such command. -/
  | unknownCommand
  /-- There is no such option, or no place for the operand. -/
  | unknownArgument
  /-- An operand is missing. -/
  | missingOperand
  /-- An option that may stand once stands twice. -/
  | repeatedOption
  /-- The value of an option is missing or empty. -/
  | missingValue
  /-- The value of an option is not of its shape. -/
  | malformedValue
  /-- An option without value was given one. -/
  | unexpectedValue
deriving DecidableEq, Repr

/-! ## Section 1: Options -/

/-- What the value of an option has to be. -/
inductive Shape where
  /-- Any text. -/
  | text
  /-- A text that is not empty. -/
  | path
  /-- A number of 64 bits. -/
  | number
  /-- An operation. -/
  | operation
deriving DecidableEq, Repr

/-- Fails for a value that is not of the shape. -/
def Shape.check (value : String) : Shape → Except UsageError Unit
  | .text => .ok ()
  | .path => if value.isEmpty then .error .missingValue else .ok ()
  | .number =>
    match Text.unsignedBelow? (Nat.pow 2 64) value.toList with
    | some _ => .ok ()
    | none => .error .malformedValue
  | .operation =>
    match Operation.parse value with
    | .ok _ => .ok ()
    | .error _ => .error .malformedValue

/-- What an option does. -/
inductive OptionKind where
  /-- It ends the reading. -/
  | ends (e : UsageError)
  /-- It stands alone, and once. -/
  | flag
  /-- It has a value and may stand once. -/
  | single (shape : Shape)
  /-- It has a value each time it stands. -/
  | list (shape : Shape)
deriving DecidableEq, Repr

/-- The shape of the value that an option has, if it has one. -/
def OptionKind.shape? : OptionKind → Option Shape
  | ends _ => none
  | flag => none
  | single shape => some shape
  | list shape => some shape

/-- What is understood at one place of the command line. -/
structure Level where
  /-- The options by name. -/
  options : List (String × OptionKind)
  /-- The options that have a letter too. -/
  letters : List (Char × OptionKind)
  /-- How many operands there are. -/
  operands : Nat := 0
  /-- The commands that may follow. -/
  commands : List String := []

/-! ## Section 2: What has been read -/

/-- An option whose value may still follow. -/
structure Pending where
  /-- The name of the option. -/
  name : String
  /-- What it does. -/
  kind : OptionKind
  /-- Its value, once it is there. -/
  value : Option String := none

/-- What has been read of the words at one place. -/
structure Scan where
  /-- The options with their values, in the order in which they were settled. -/
  given : List (String × String) := []
  /-- The option that is not settled. -/
  pending : Option Pending := none
  /-- The operands. -/
  operands : List String := []
  /-- Whether every word is an operand from here on. -/
  literal : Bool := false

namespace Scan

/-- Whether an option has been given. -/
def has (s : Scan) (name : String) : Bool := s.given.any (·.1 = name)

/-- The value of an option. -/
def value? (s : Scan) (name : String) : Option String := s.given.lookup name

/-- The values of an option that may stand several times. -/
def values (s : Scan) (name : String) : List String :=
  s.given.filterMap fun (n, v) => if n = name then some v else none

/-- Whether the next word is the value of an option. -/
def awaits (s : Scan) : Bool := s.pending.any (·.value.isNone)

/-- Takes an option with its value, which is empty for a flag. -/
def give (s : Scan) (name value : String) (kind : OptionKind) : Except UsageError Scan := do
  let again := match kind with
    | .list _ => false
    | _ => s.has name
  if again then throw .repeatedOption
  else
    (kind.shape?.getD .text).check value
    return { s with given := s.given ++ [(name, value)] }

/-- Takes the option that is pending, which has to have its value by now. -/
def settle (s : Scan) : Except UsageError Scan :=
  match s.pending with
  | none => .ok s
  | some ⟨_, _, none⟩ => .error .missingValue
  | some ⟨name, kind, some value⟩ => { s with pending := none }.give name value kind

/-- Gives the option that is pending its value. -/
def fill (s : Scan) (value : String) : Scan :=
  { s with pending := s.pending.map fun p => { p with value := some value } }

end Scan

/-! ## Section 3: Reading -/

/-- A word by its form. -/
inductive Word where
  /-- Two dashes alone. -/
  | separator
  /-- Two dashes and a name, and a value behind an equals sign. -/
  | long (name : String) (value : Option String)
  /-- A dash and a letter. -/
  | short (letter : Char)
  /-- Any other word. -/
  | plain

/-- The form of a word. -/
def Word.ofString (w : String) : Word :=
  match w.toList with
  | ['-', '-'] => .separator
  | '-' :: '-' :: cs =>
    match Text.cutFirst '=' cs with
    | some (name, value) => .long (String.ofList name) (some (String.ofList value))
    | none => .long (String.ofList cs) none
  | '-' :: c :: _ => .short c
  | _ => .plain

namespace Level

/-- Reads an option with the value attached to it. -/
def readOption (s : Scan) (name : String) (kind : OptionKind) (value : Option String) :
    Except UsageError Scan :=
  match kind, value with
  | .ends _, some _ => .error .unexpectedValue
  | .flag, some _ => .error .unexpectedValue
  | .ends e, none => do
    let _ ← s.settle
    throw e
  | .flag, none => do (← s.settle).give name "" kind
  | _, some v => do (← s.settle).give name v kind
  | _, none => do return { ← s.settle with pending := some { name, kind } }

/-- Reads an operand. One too many is taken for an unknown command where commands may
    follow, unless it stands behind the separator and does name one. -/
def readOperand (l : Level) (s : Scan) (w : String) : Except UsageError Scan :=
  if s.operands.length < l.operands then do
    return { ← s.settle with operands := s.operands ++ [w] }
  else if l.commands.isEmpty || (s.literal && l.commands.contains w) then .error .unknownArgument
  else .error .unknownCommand

/-- Reads a word that is no command. -/
def readWord (l : Level) (s : Scan) (w : String) : Except UsageError Scan :=
  if s.literal then l.readOperand s w
  else
    match Word.ofString w with
    | .separator => .ok { s with literal := true }
    | .long name value =>
      match l.options.lookup name with
      | some kind => readOption s name kind value
      | none => .error .unknownArgument
    | .short letter =>
      match l.letters.lookup letter with
      | some kind => readOption s letter.toString kind none
      | none => .error .unknownArgument
    | .plain => if s.awaits then .ok (s.fill w) else l.readOperand s w

/-- Whether a word names a command at this point. -/
def isCommand (l : Level) (s : Scan) (w : String) : Bool :=
  !s.literal && !s.awaits && l.commands.contains w

/-- Reads words up to a command, which is given with the words behind it. -/
def scan (l : Level) (s : Scan) : List String →
    Except UsageError (Scan × Option (String × List String))
  | [] => .ok (s, none)
  | w :: ws => do
    if l.isCommand s w then return (s, some (w, ws))
    else l.scan (← l.readWord s w) ws

end Level

end QueryComposer
