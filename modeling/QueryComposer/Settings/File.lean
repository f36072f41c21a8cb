import QueryComposer.Environment.Basic
import QueryComposer.Files
import QueryComposer.Json.Reader
import QueryComposer.Settings.Basic
import QueryComposer.Settings.Path
import QueryComposer.Text.Cut
import QueryComposer.Toml.Reader

/-! # Settings in files

  A settings file is a document of some format, told by the ending of its name. Which
  formats there are, and how a document of one is read, is left to the program that asks
  for the settings; the readers of two formats are here. The variables of the environment
  whose names begin with `DDB_` go before what the file says. Entries that are no settings
  are passed over, but their paths have to lead to places that a list can have.

  - `SettingsFormat` is a format: the endings of its files and the reader of a document.
  - `Settings.ofValue?` converts the values.
  - `Settings.ofFile` finds the file and reads it together with the environment.
-/

namespace QueryComposer

/-! ## Section 1: Entries -/

/-- Values by the keys that they are given under, one after another. -/
abbrev SettingEntries := List (String × SettingValue)

namespace SettingEntries

/-- What the names of variables begin with, in small letters. -/
def variableMark : String := "ddb_"

/-- The key that a variable stands for: what its name says behind the mark, in small
    letters. -/
def keyOf? (name : String) : Option String :=
  let key := (SettingValue.small name).toList
  let mark := variableMark.toList
  if mark.isPrefixOf key then some (String.ofList (key.drop mark.length)) else none

/-- The entry of a variable. -/
def ofVariable (name text : String) : Option (String × SettingValue) :=
  (keyOf? name).map fun key => (key, .ofWord text)

/-- The entries of an environment. -/
def ofEnvironment (env : Environment) : SettingEntries :=
  env.filterMap fun (name, text) => ofVariable name text

end SettingEntries

/-! ## Section 2: Documents -/

/-- A format of settings files. -/
structure SettingsFormat where
  /-- The endings of the names of files in the format, in the order in which such files are
      looked for. -/
  endings : List String
  /-- What a document in the format says. Of a document that is none there may be a report
      of what is wrong. -/
  entries : String → Except (Option String) SettingEntries

namespace SettingsFormat

/-- The entries that a document consists of, which has to be a table. -/
def entriesOf : SettingValue → Except (Option String) SettingEntries
  | .table members => .ok members
  | _ => .error none

/-- JSON documents. -/
def json : SettingsFormat where
  endings := ["json"]
  entries document :=
    match (Json.parse? document).bind Json.settled? with
    | some v => entriesOf (.ofJson v)
    | none => .error none

/-- TOML documents. -/
def toml : SettingsFormat where
  endings := ["toml"]
  entries document :=
    match Toml.parse? document with
    | some v =>
      ((SettingValue.ofToml v).mapError fun f => some (f.report document.toList)).bind entriesOf
    | none => .error none

/-- The formats whose readers are here. A program may know others. -/
def known : List SettingsFormat := [json, toml]

/-- A path from its end on, without slashes and without points that stay where one is. -/
def dropStays : List Char → List Char
  | '/' :: cs => dropStays cs
  | '.' :: '/' :: cs => dropStays cs
  | cs => cs

/-- A path up to its last name. -/
def toLastName (path : List Char) : List Char := (dropStays path.reverse).reverse

/-- The last name on a path. -/
def fileName (path : List Char) : List Char :=
  match Text.cutLast (· = '/') (toLastName path) with
  | some (_, _, name) => name
  | none => toLastName path

/-- The format of a file by the ending of its name, in front of which something stands. -/
def ofPath? (formats : List SettingsFormat) (path : String) : Option SettingsFormat :=
  match Text.cutLast (· = '.') (fileName path.toList) with
  | some (_ :: _, _, ending) => formats.find? (·.endings.contains (String.ofList ending))
  | _ => none

/-- The names under which a file is looked for where there is none of the name itself. -/
def candidates (formats : List SettingsFormat) (path : String) :
    List (SettingsFormat × String) :=
  let name := fileName path.toList
  if name.isEmpty || name = ['.'] || name = ['.', '.'] then []
  else
    let stem := String.ofList (toLastName path.toList)
    formats.flatMap fun format =>
      format.endings.map fun ending => (format, stem ++ "." ++ ending)

end SettingsFormat

/-! ## Section 3: Settings -/

/-- Why a settings file cannot be used. -/
inductive SettingsError where
  /-- There is no such file. -/
  | notFound (name : String)
  /-- The ending of the name is not one of a known format. -/
  | unknownFormat (name : String)
  /-- The text found under a path is not a document of its format. -/
  | malformed (name path : String) (report : Option String)
  /-- A path leads to a place that a list cannot have. -/
  | noSuchPlace (name : String)
  /-- A value cannot be converted to what its setting is. -/
  | unfit (name : String)
  /-- The row limit is zero. -/
  | zeroLimit
deriving DecidableEq, Repr

namespace SettingsError

/-- The reason that is given for people. -/
def reason : SettingsError → String
  | notFound name => name ++ ": configuration file \"" ++ name ++ "\" not found"
  | unknownFormat name =>
    name ++ ": configuration file \"" ++ name ++ "\" is not of a registered file format"
  | malformed name path report =>
    name ++ ": " ++ report.getD "the file is malformed" ++ " in " ++ path
  | noSuchPlace name => name ++ ": a path leads out of a list"
  | unfit name => name ++ ": a value is of the wrong type"
  | zeroLimit => "default_limit must be at least 1"

/-- The error as one of the program. -/
def toQueryError (e : SettingsError) : QueryError := .configuration e.reason

end SettingsError

namespace Settings

/-- The setting of a name, converted; its default where there is no value. -/
def entry {α : Type} (whole : SettingValue) (name : String) (usual : α)
    (convert : SettingValue → Option α) : Option α :=
  match whole.members.find? name with
  | some v => convert v
  | none => some usual

/-- The path that a value gives, or none for no value. -/
def pathOf? : SettingValue → Option (Option String)
  | .nothing => some none
  | v => v.text?.map some

/-- The settings that a table gives, where every value can be converted. -/
def ofValue? (whole : SettingValue) : Option Settings := do
  let usual : Settings := {}
  let origin ← entry whole "origin" usual.origin SettingValue.text?
  let schemaPath ← entry whole "schema_path" usual.schemaPath pathOf?
  let defaultLimit ← entry whole "default_limit" usual.defaultLimit SettingValue.limit?
  let logFilter ← entry whole "log_filter" usual.logFilter SettingValue.text?
  return { origin, schemaPath, defaultLimit, logFilter }

/-- A path without the names that stay where one is. -/
def shortPath (path : String) : String := "/".intercalate (Directory.steps path)

/-- The settings of the text that is found under a path for a name, with the environment
    before it. -/
def ofDocument (format : SettingsFormat) (name path document : String) (env : Environment) :
    Except SettingsError Settings :=
  match format.entries document with
  | .error report => .error (.malformed name (shortPath path) report)
  | .ok entries =>
    match SettingValue.ofEntries? (entries ++ SettingEntries.ofEnvironment env) with
    | none => .error (.noSuchPlace name)
    | some whole =>
      match ofValue? whole with
      | none => .error (.unfit name)
      | some s => if s.defaultLimit = 0 then .error .zeroLimit else .ok s

/-- The text of the regular file under a path, without a mark of the order of bytes. -/
def readRegular? {m : Type → Type} [Monad m] (read : String → m Reading) (path : String) :
    m (Option String) := do
  return (← read path).regular?.map fun text => String.ofList (Text.behindOrderMark text.toList)

/-- The first of some files that is there: its format, its path and its text. -/
def firstFile {m : Type → Type} [Monad m] (read : String → m Reading) (directory : String) :
    List (SettingsFormat × String) → m (Option (SettingsFormat × String × String))
  | [] => return none
  | (format, path) :: files => do
    match ← readRegular? read (File.absolute directory path) with
    | some text => return some (format, path, text)
    | none => firstFile read directory files

/-- The settings of a file that is read by `read`, with the environment before it. Its
    path starts from a directory, and it is of one of the formats; the ending may be left
    out. -/
def ofFile {m : Type → Type} [Monad m] (read : String → m Reading) (directory : String)
    (env : Environment) (name : String)
    (formats : List SettingsFormat := SettingsFormat.known) :
    m (Except SettingsError Settings) := do
  match ← readRegular? read (File.absolute directory name) with
  | some document =>
    match SettingsFormat.ofPath? formats name with
    | some format => return ofDocument format name name document env
    | none => return .error (.unknownFormat name)
  | none =>
    match ← firstFile read directory (SettingsFormat.candidates formats name) with
    | some (format, path, document) => return ofDocument format name path document env
    | none => return .error (.notFound name)

end Settings

end QueryComposer
