import QueryComposer.Error

/-! # Files

  The program reads a few files by name. What reading leads to is a value, so that
  the program is the same function of a real directory and of one held in memory.
  Names are paths with slashes, from the current directory on, or from the root if they
  begin with a slash. Of what is around a directory held in memory, no more is known than
  the directories that every root has, and one device.
-/

namespace QueryComposer

/-- Why a file cannot be read. -/
inductive FileError where
  /-- There is nothing of the name. -/
  | missing
  /-- A name on the way belongs to a file. -/
  | notADirectory
  /-- The name belongs to a directory. -/
  | isADirectory
  /-- A name or the whole path is longer than it may be. -/
  | nameTooLong
  /-- The path holds a character with the code zero, which ends texts of the system. -/
  | endInside
  /-- Something else, in the words of the system. -/
  | other (reason : String)
deriving DecidableEq, Repr

/-- The message of the system. -/
def FileError.message : FileError → String
  | missing => "No such file or directory (os error 2)"
  | notADirectory => "Not a directory (os error 20)"
  | isADirectory => "Is a directory (os error 21)"
  | nameTooLong => "File name too long (os error 36)"
  | endInside => "file name contained an unexpected NUL byte"
  | other reason => reason

/-- What is found under a path that can be read. -/
structure File where
  /-- What it holds. -/
  text : String
  /-- Whether it keeps what it holds, as a device does not. -/
  regular : Bool := true
deriving DecidableEq, Repr

/-- What reading leads to: a file, or why there is none. -/
abbrev Reading := Except FileError File

namespace Reading

/-- The text of a file that something was to be configured with. -/
def orRefuse (name : String) (r : Reading) : Except QueryError String :=
  (r.mapError fun e => .configuration (name ++ ": " ++ e.message)).map File.text

/-- The text of a regular file. -/
def regular? : Reading → Option String
  | .ok file => if file.regular then some file.text else none
  | .error _ => none

end Reading

/-- The path from the root on, for one that may start from a directory. -/
def File.absolute (directory path : String) : String :=
  if path.startsWith "/" then path else directory ++ "/" ++ path

/-- A directory held in memory, with the texts of the files in it and below. -/
structure Directory where
  /-- The names from the root to the directory. -/
  home : List String
  /-- The names from the root to each file, and its text. -/
  files : List (List String × String)
deriving Repr

namespace Directory

/-- Whether a name on a path stands for staying where one is. -/
def stays (name : String) : Bool := name = "" || name = "."

/-- The names along a path. -/
def names (path : String) : List String := (path.toList.splitOn '/').map String.ofList

/-- The names along a path that lead on. -/
def steps (path : String) : List String := (names path).filter fun name => !stays name

/-- The directory of a path from the root, with some files by their paths in it. -/
def ofFiles (path : String) (files : List (String × String)) : Directory :=
  let home := steps path
  { home, files := files.map fun (name, text) => (home ++ steps name, text) }

/-- How many bytes a name may take. -/
def longestName : Nat := 255

/-- How many bytes a path may take. -/
def longestPath : Nat := 4095

/-- The directories that every root has. -/
def usualDirectories : List (List String) :=
  (["bin", "boot", "dev/pts", "dev/shm", "etc/opt", "home", "lib", "media", "mnt", "opt", "proc",
    "root", "run", "sbin", "srv", "sys", "tmp", "usr/bin", "usr/include", "usr/lib",
    "usr/local/bin", "usr/local/lib", "usr/local/share", "usr/sbin", "usr/share", "usr/src",
    "var/cache", "var/lib", "var/local", "var/log", "var/opt", "var/run", "var/spool",
    "var/tmp"]).map steps

/-- The names from the root to the device that holds nothing. -/
def emptyDevice : List String := ["dev", "null"]

/-- What is under the names from the root, if it is a file. -/
def file? (d : Directory) (here : List String) : Option File :=
  if here = emptyDevice then some { text := "", regular := false }
  else (d.files.lookup here).map fun text => { text }

/-- Whether the names from the root lead to a directory. -/
def isDirectory (d : Directory) (here : List String) : Bool :=
  here.isPrefixOf d.home || (d.files.any fun (path, _) => here.isPrefixOf path) ||
    usualDirectories.any here.isPrefixOf

/-- Follows names from the directory that the names `here` lead to from the root. -/
def follow (d : Directory) (here : List String) : List String → Reading
  | [] => .error .isADirectory
  | name :: names =>
    if stays name then d.follow here names
    else if name = ".." then d.follow here.dropLast names
    else if longestName < name.utf8ByteSize then .error .nameTooLong
    else
      let there := here ++ [name]
      match d.file? there with
      | some file => if names.isEmpty then .ok file else .error .notADirectory
      | none => if d.isDirectory there then d.follow there names else .error .missing

/-- Reads a file. -/
def read (d : Directory) (path : String) : Reading :=
  if path.toList.contains '\x00' then .error .endInside
  else if path.isEmpty then .error .missing
  else if longestPath < path.utf8ByteSize then .error .nameTooLong
  else d.follow (if path.startsWith "/" then [] else d.home) (names path)

end Directory

end QueryComposer
