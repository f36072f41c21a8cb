import QueryComposer.CommandLine.Program
import QueryComposer.Text.Utf8
import Std.Time.DateTime

/-! # The command line

  The outermost layer: it hands the words of the command line, the environment, the year
  and the files to `Program.run`, and prints what comes of it.
-/

namespace QueryComposer

/-- What the system says about a file that cannot be read. -/
def FileError.ofSystem : IO.Error → FileError
  | .noFileOrDirectory .. => .missing
  | .inappropriateType none .. => .isADirectory
  | .inappropriateType (some _) .. => .notADirectory
  | .invalidArgument _ _ "name too long" => .nameTooLong
  | .invalidArgument _ _ "File name too long" => .nameTooLong
  | .permissionDenied .. => .other "Permission denied (os error 13)"
  | e => .other e.toString

/-- Reads a file. What is below `/dev` is a device. -/
def readFile (path : String) : IO Reading := do
  if path.toList.contains '\x00' then return .error .endInside
  try return .ok { text := ← IO.FS.readFile path, regular := !path.startsWith "/dev/" }
  catch e => return .error (.ofSystem e)

/-- The variable of an entry, which holds its name and its text. -/
def entryOfText? (entry : List Char) : Option (String × String) :=
  (Text.cutFirst '=' entry).map fun (name, text) => (String.ofList name, String.ofList text)

/-- The variables of the program, which the system keeps one behind another. -/
def readEnvironment : IO Environment := do
  try
    let bytes ← IO.FS.readBinFile "/proc/self/environ"
    let entries := (Text.decode bytes.toList).splitOn '\x00'
    return entries.filterMap entryOfText?
  catch _ => return []

/-- Where a file of variables is looked for: here and in the directories above. -/
def variableFiles : List String :=
  (List.range 64).map fun n => String.join (List.replicate n "../") ++ ".env"

/-- What is shown for help and where the command line is not understood. -/
def usageLines : List String :=
  ["Usage: ddb [--schema PATH] [--origin ORIGIN] [--settings PATH] COMMAND",
   "",
   "Commands:",
   "  models",
   "  fields MODEL [--depth N]",
   "  urls MODEL [--fields SEGMENT] [--query SEGMENT] [--limit N] [--op OPERATION]... [--json]"]

/-- Prints what came of a run, and gives its status. -/
def report (o : Outcome) : IO UInt32 := do
  IO.print o.output
  for note in o.notes do IO.eprintln note
  match o.ending with
  | .done => pure ()
  | .usage .version => pure ()
  | .usage .help => IO.print (Program.printed usageLines)
  | .usage _ => IO.eprint (Program.printed usageLines)
  | .failed f => IO.eprintln f.report
  | .brokenOff b => IO.eprintln b.reason
  return o.ending.status.toUInt32

/-- Runs the program on the words of the command line, today. -/
def runToday (words : List String) : IO UInt32 := do
  let now ← Std.Time.Timestamp.now
  let year := (Std.Time.DateTime.ofTimestampWithZone now .UTC).year
  report (← Program.run readFile
    { words
      environment := ← readEnvironment
      directory := (← IO.currentDir).toString
      variableFiles
      currentYear := toString year.toInt })

end QueryComposer

/-- The program. -/
def main (words : List String) : IO UInt32 := QueryComposer.runToday words
