import QueryComposer.CommandLine.Arguments
import QueryComposer.CommandLine.Failure
import QueryComposer.Environment.Document
import QueryComposer.Schema.Catalog
import QueryComposer.Schema.Document
import QueryComposer.Settings.Environment
import QueryComposer.Settings.File

/-! # The program

  A run takes the words of the command line, the environment and the year, and reads
  files by name. Its outcome is a value, so that the run is a function: what is printed,
  what is noted beside it, and with which status the program ends.

  - `Program.load` finds the settings and the schema that the arguments call for.
  - `Program.perform` carries out the command.
  - `Program.run` is the whole run.
-/

namespace QueryComposer

/-- What a run of the program is given, other than files. -/
structure Invocation where
  /-- The words of the command line, the name of the program left out. -/
  words : List String
  /-- The variables of the program. -/
  environment : Environment
  /-- The path from the root to the current directory. -/
  directory : String
  /-- Where a file with further variables is looked for. -/
  variableFiles : List String := [".env"]
  /-- The formats that a settings file may have. -/
  settingsFormats : List SettingsFormat := SettingsFormat.known
  /-- The year of the day. -/
  currentYear : String

/-- Why a run of the program cannot go on, whatever the command is. -/
inductive Breakage where
  /-- A file gives a variable a text that none can have. -/
  | impossibleText
  /-- A settings file or the environment gives a value to a place that a list cannot have. -/
  | impossiblePlace
deriving DecidableEq, Repr

/-- The reason that is given for people. -/
def Breakage.reason : Breakage → String
  | impossibleText => "a variable cannot hold the character that ends its text"
  | impossiblePlace => "a path leads out of a list"

/-- How a run of the program ends. -/
inductive Ending where
  /-- The command was carried out. -/
  | done
  /-- The command line was not understood, or asks for help or the version. -/
  | usage (e : UsageError)
  /-- The command came to nothing. -/
  | failed (f : Failure)
  /-- The run could not go on. -/
  | brokenOff (b : Breakage)

/-- The status that tells the end of a run. -/
def Ending.status : Ending → Nat
  | done => 0
  | usage .help => 0
  | usage .version => 0
  | usage _ => 2
  | failed _ => 1
  | brokenOff _ => 101

/-- What a run of the program leads to. -/
structure Outcome where
  /-- How it ends. -/
  ending : Ending
  /-- What is printed. -/
  output : String := ""
  /-- What is noted beside it. -/
  notes : List String := []

/-- What the settings and the schema of a session come to. -/
structure Session where
  /-- The schema. -/
  schema : Schema
  /-- The row limit of a query that sets none. -/
  defaultLimit : Nat
  /-- The origin that links begin with. -/
  origin : String

namespace Program

/-- What is printed when the version is asked for. -/
def versionText : String := "ddb 0.1.0\n"

/-- The lines as they are printed. -/
def printed (lines : List String) : String := String.join (lines.map (· ++ "\n"))

variable {m : Type → Type} [Monad m]

/-- The schema in a file. -/
def readSchema (read : String → m Reading) (path : String) : m (Except QueryError Schema) := do
  return ((← read path).orRefuse path).bind Schema.parse

/-- The environment with the variables of the first of some files that is there. -/
def readVariables (read : String → m Reading) (env : Environment) :
    List String → m (Except Ending Environment)
  | [] => return .ok env
  | path :: paths => do
    match ← read path with
    | .ok file =>
      match env.load? file.text with
      | some env => return .ok env
      | none => return .error (.brokenOff .impossibleText)
    | .error _ => readVariables read env paths

/-- How a run ends on settings that cannot be used. -/
def endingOf : SettingsError → Ending
  | .noSuchPlace _ => .brokenOff .impossiblePlace
  | e => .failed (.refused e.toQueryError)

/-- The settings that the arguments call for, and what is to be noted. Settings of the
    environment that cannot be used give way to the defaults. -/
def readSettings (read : String → m Reading) (i : Invocation) (env : Environment)
    (a : Arguments) : m (Except Ending (Settings × List String)) := do
  match a.settings with
  | some name =>
    let settings ← Settings.ofFile read i.directory env name i.settingsFormats
    return (settings.mapError endingOf).map (·, [])
  | none =>
    match Settings.ofEnvironment env with
    | .ok s => return .ok (s, [])
    | .error e =>
      return .ok ({},
        ["Failed to load settings from env: " ++ e.message ++ ", using defaults"])

/-- The session that the arguments call for, on the settings found. A schema without
    types has the standard ones. -/
def load (read : String → m Reading) (currentYear : String) (a : Arguments) (s : Settings) :
    m (Except Failure Session) := do
  match a.schema.or s.schemaPath with
  | none => return .error .missingSchema
  | some path =>
    return ((← readSchema read path).mapError Failure.refused).map fun schema =>
      { schema := schema.withStandardTypes currentYear
        defaultLimit := s.defaultLimit
        origin := (a.origin.map trimOrigin).getD s.linkOrigin }

/-- What a command prints. -/
def perform (session : Session) : Action → Except Failure String
  | .models => return printed session.schema.modelNames
  | .fields model depth => do
    return printed (← (session.schema.fieldLines model depth).mapError .refused)
  | .links request asDocument => do
    let r ← request.report session.schema session.defaultLimit session.origin
    return printed [if asDocument then r.toJson.pretty else r.text]

/-- Carries out the arguments with the variables `env`. -/
def runWith (read : String → m Reading) (i : Invocation) (env : Environment) (a : Arguments) :
    m Outcome := do
  match ← readSettings read i env a with
  | .error ending => return { ending }
  | .ok (settings, notes) =>
    match (← load read i.currentYear a settings).bind (perform · a.action) with
    | .error f => return { ending := .failed f, notes }
    | .ok output => return { ending := .done, output, notes }

/-- The whole run. -/
def run (read : String → m Reading) (i : Invocation) : m Outcome := do
  match ← readVariables read i.environment i.variableFiles with
  | .error ending => return { ending }
  | .ok env =>
    match Arguments.parse env i.words with
    | .error .version => return { ending := .usage .version, output := versionText }
    | .error e => return { ending := .usage e }
    | .ok a => runWith read i env a

end Program

end QueryComposer
