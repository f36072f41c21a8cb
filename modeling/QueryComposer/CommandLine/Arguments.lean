import QueryComposer.CommandLine.Report
import QueryComposer.CommandLine.Scan
import QueryComposer.Environment.Basic

/-! # Arguments

  The program has three commands: `models` lists the models of a schema, `fields` the
  fields that can be reached from a model, and `urls` the links of a query. Some options
  may stand before the command or behind it; behind it they count more, and those that
  do not stand at all are taken from the environment.
-/

namespace QueryComposer

/-! ## Section 1: What is asked for -/

/-- A command of the program. -/
inductive Action where
  /-- List the models. -/
  | models
  /-- List the fields that can be reached from a model through so many relations. -/
  | fields (model : String) (depth : Nat)
  /-- Report the links of a query, as text or as a document. -/
  | links (request : LinkRequest) (asDocument : Bool)
deriving Repr

/-- Everything that the command line says. -/
structure Arguments where
  /-- Where the document of the schema is. -/
  schema : Option String
  /-- The origin that links begin with. -/
  origin : Option String
  /-- The settings file. -/
  settings : Option String
  /-- The command. -/
  action : Action
deriving Repr

/-! ## Section 2: The levels -/

namespace Arguments

/-- The options that may stand before the command and behind it. -/
def sharedOptions : List (String × OptionKind) :=
  [("schema", .single .path), ("origin", .single .text), ("settings", .single .path),
   ("help", .ends .help)]

/-- The letter of the option that every level has. -/
def sharedLetters : List (Char × OptionKind) := [('h', .ends .help)]

/-- The words before the command. -/
def topLevel : Level :=
  { options := sharedOptions ++ [("version", .ends .version)]
    letters := sharedLetters ++ [('V', .ends .version)]
    commands := ["models", "fields", "urls", "help"] }

/-- The words behind `models`. -/
def modelsLevel : Level := { options := sharedOptions, letters := sharedLetters }

/-- The words behind `fields`. -/
def fieldsLevel : Level :=
  { options := sharedOptions ++ [("depth", .single .number)]
    letters := sharedLetters
    operands := 1 }

/-- The words behind `urls`. -/
def linksLevel : Level :=
  { options := sharedOptions ++
      [("fields", .single .text), ("query", .single .text), ("limit", .single .text),
       ("op", .list .operation), ("json", .flag)]
    letters := sharedLetters
    operands := 1 }

/-! ## Section 3: Reading -/

/-- The variables that stand in for options. -/
def standIns : List (String × String) :=
  [("schema", "DDB_SCHEMA_PATH"), ("origin", "DDB_ORIGIN")]

/-- The text of the variable that stands in for an option. -/
def standIn? (env : Environment) (name : String) : Option String :=
  (standIns.lookup name).bind env.get?

/-- Fails where an option was not given and its variable is not of its shape. -/
def checkStandIn (env : Environment) (s : Scan) (name : String) : Except UsageError Unit :=
  match standIn? env name, sharedOptions.lookup name with
  | some text, some kind => if s.has name then .ok () else (kind.shape?.getD .text).check text
  | _, _ => .ok ()

/-- Ends the reading of a level: the last option is settled, and a variable that stands in
    for an option has to be of its shape. -/
def close (env : Environment) (s : Scan) : Except UsageError Scan := do
  let s ← s.settle
  standIns.forM fun (name, _) => checkStandIn env s name
  return s

/-- The only operand of a level. -/
def operand (s : Scan) : Except UsageError String :=
  match s.operands.head? with
  | some w => .ok w
  | none => .error .missingOperand

/-- How many relations are followed, one unless it is said. -/
def depth (s : Scan) : Nat :=
  ((s.value? "depth").bind fun w => Text.unsignedBelow? (Nat.pow 2 64) w.toList).getD 1

/-- The commands that the operations of a level stand for. -/
def commands (s : Scan) : List Command :=
  (s.values "op").filterMap fun w => (Operation.parse w).toOption

/-- What asking for help on a command comes to; only one name may follow. -/
def helpOn : List String → UsageError
  | [] => .help
  | [w] => if topLevel.commands.contains w then .help else .unknownCommand
  | _ => .unknownCommand

/-- Reads the words behind the name of a command. -/
def readAction (env : Environment) (name : String) (words : List String) :
    Except UsageError (Scan × Action) := do
  match name with
  | "models" => do
    let (s, _) ← modelsLevel.scan {} words
    return (← close env s, .models)
  | "fields" => do
    let (s, _) ← fieldsLevel.scan {} words
    let s ← close env s
    return (s, .fields (← operand s) (depth s))
  | "urls" => do
    let (s, _) ← linksLevel.scan {} words
    let s ← close env s
    let parts : Parts :=
      { model := ← operand s
        fields := (s.value? "fields").getD ""
        query := (s.value? "query").getD "" }
    let request : LinkRequest := { parts, limit := s.value? "limit", commands := commands s }
    return (s, .links request (s.has "json"))
  | _ => throw (helpOn words)

/-- What lies behind a command line without command. -/
def withoutCommand (env : Environment) (s : Scan) : UsageError :=
  if s.given.isEmpty && standIns.all (fun (name, _) => (standIn? env name).isNone) then
    .nothingGiven
  else .missingCommand

/-- Reads a command line, the name of the program left out. -/
def parse (env : Environment) (words : List String) : Except UsageError Arguments := do
  let (s, command) ← topLevel.scan {} words
  match command with
  | none => do throw (withoutCommand env (← close env s))
  | some (name, rest) => do
    let (inner, action) ← readAction env name rest
    let outer ← close env s
    let shared (option : String) : Option String :=
      ((inner.value? option).or (outer.value? option)).or (standIn? env option)
    return {
      schema := shared "schema"
      origin := shared "origin"
      settings := shared "settings"
      action }

end Arguments

end QueryComposer
