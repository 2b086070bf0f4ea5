import SqlUpdate.Text.Cut
import SqlUpdate.Text.Utf8
/-!
# Files and the paths that lead to them

* `FileError` — why a file cannot be read.
* `Directory` — some files, and the directory that paths start from.
* `Directory.read` — the text of the file that a path leads to. A path is walked name by name: a
  file must be its last name, and every name before must be that of a directory.
* `Directory.has` — whether a path leads to anything.

Names and paths are bytes, since not all of them are text.
-/

namespace SqlUpdate

/-- Why a file cannot be read. -/
inductive FileError where
  /-- There is no such file. -/
  | notFound
  /-- A name that others follow is not that of a directory. -/
  | notADirectory
  /-- The path leads to a directory. -/
  | isADirectory
  /-- A name in the path is too long, or the path is. -/
  | nameTooLong
  /-- Something else is wrong, which is said in words. -/
  | other (reason : String)
  deriving DecidableEq, Repr

/-- Why a file cannot be read, in words. -/
def FileError.message : FileError → String
  | notFound => "No such file or directory (os error 2)"
  | notADirectory => "Not a directory (os error 20)"
  | isADirectory => "Is a directory (os error 21)"
  | nameTooLong => "File name too long (os error 36)"
  | other reason => reason

/-- The name of a file or of a directory. -/
abbrev Directory.Name := List UInt8

/-- Some files, and the directory that paths start from. A directory is known by the names that lead
to it from the root. -/
structure Directory where
  /-- The directory that paths start from. -/
  current : List Directory.Name
  /-- The files: the names that lead to each from the root, and its text. -/
  files : List (List Directory.Name × String)
  deriving Repr, Inhabited

namespace Directory

/-- The byte between two names. -/
def slash : UInt8 := 0x2F

/-- The names in a path. -/
def names (path : List UInt8) : List Name := Text.splitAll slash path

/-- The name of the directory that it is looked up in. -/
def here : Name := [0x2E]

/-- The name of the directory above. -/
def above : Name := [0x2E, 0x2E]

/-- Names that lead nowhere but to the directory they are looked up in. -/
def isStay (name : Name) : Bool := name = [] || name = here

/-- Whether a path starts from the root. -/
def isAbsolute (path : List UInt8) : Bool := path.head? = some slash

/-- The directory that a path starts from. -/
def origin (d : Directory) (path : List UInt8) : List Name :=
  if isAbsolute path then [] else d.current

/-- The directory with a file that a path leads to, if the path does not go up. -/
def add (d : Directory) (path : List UInt8) (text : String) : Directory :=
  { d with files := d.files ++ [(d.origin path ++ (names path).filter fun n => !isStay n, text)] }

/-- Whether names lead to a directory: to the one that paths start from, or to one on the way to it
or to a file. -/
def hasDirectory (d : Directory) (place : List Name) : Bool :=
  place.isPrefixOf d.current || d.files.any fun f => place.isPrefixOf f.1 && place != f.1

/-- The text of the file that names lead to. -/
def text? (d : Directory) (place : List Name) : Option String :=
  (d.files.find? fun f => f.1 = place).map Prod.snd

/-- How many bytes a name has at most. -/
def nameLimit : Nat := 255

/-- How many bytes a path has at most. -/
def pathLimit : Nat := 4095

/-- Looks up names one after the other, from a directory on. -/
def walk (d : Directory) (place : List Name) : List Name → Except FileError String
  | [] => .error .isADirectory
  | n :: ns =>
    if isStay n then walk d place ns
    else if n = above then walk d place.dropLast ns
    else if nameLimit < n.length then .error .nameTooLong
    else if d.hasDirectory (place ++ [n]) then walk d (place ++ [n]) ns
    else
      match d.text? (place ++ [n]) with
      | none => .error .notFound
      | some text => if ns = [] then .ok text else .error .notADirectory

/-- The text of the file that a path leads to. -/
def read (d : Directory) (path : List UInt8) : Except FileError String :=
  if path = [] then .error .notFound
  else if pathLimit < path.length then .error .nameTooLong
  else walk d (d.origin path) (names path)

/-- Whether a path leads to a file or to a directory. -/
def has (d : Directory) (path : List UInt8) : Bool :=
  match d.read path with
  | .ok _ | .error .isADirectory => true
  | .error _ => false

end Directory

end SqlUpdate
