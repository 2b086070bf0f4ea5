import SqlUpdate.Text.Escaped
import SqlUpdate.Text.Utf8
/-!
# Where a SQLite database is kept

* `Access`, `Storage` — where a database is kept, and what may be done with its file.
* `StorageError` — why it cannot be found or opened.
-/

namespace SqlUpdate

/-- What may be done with the file of a database. -/
inductive Access where
  /-- It is read. -/
  | readOnly
  /-- It is read and written. -/
  | readWrite
  /-- It is read and written, and made if it is missing. -/
  | create
  /-- There is no file: the database is kept in memory. -/
  | memory
  deriving DecidableEq, Repr

namespace Access

/-- The access that a word names. -/
def ofWord? : String → Option Access
  | "ro" => some .readOnly
  | "rw" => some .readWrite
  | "rwc" => some .create
  | "memory" => some .memory
  | _ => none

/-- What two accesses come to that are both asked for. -/
def both : Access → Access → Access
  | .memory, _ | _, .memory => .memory
  | .readOnly, _ | _, .readOnly => .readOnly
  | .create, _ | _, .create => .create
  | .readWrite, .readWrite => .readWrite

/-- Whether one access may be replaced by another one. -/
def allows : Access → Access → Bool
  | _, .memory | .memory, _ | .create, _ => true
  | .readWrite, a => a ≠ .create
  | .readOnly, a => a = .readOnly

end Access

/-- Where a database is kept. -/
structure Storage where
  /-- The path to the file. -/
  path : List UInt8
  /-- What may be done with it. -/
  access : Access
  /-- The path to the file that has the permissions which it gets if it is made. -/
  modeOf : Option (List UInt8)
  deriving DecidableEq, Repr

namespace Storage

/-- The path of a database that is kept in memory. -/
def memoryPath : String := ":memory:"

/-- A database that is kept in memory. -/
def memory : Storage := ⟨[], .memory, none⟩

/-- Whether there is no file: it may not be used, or it has no name. -/
def isInMemory (s : Storage) : Bool :=
  s.access = .memory || s.path = [] || s.path = Utf8.bytes memoryPath

end Storage

/-- Why a database cannot be found or opened. -/
inductive StorageError where
  /-- The path in a URL stands for bytes that are no text. -/
  | notText (fault : Utf8.Fault)
  /-- A parameter of a URL does not have such a value. -/
  | unknownValue (name value : String)
  /-- A URL has no such parameter. -/
  | unknownParameter (name : String)
  /-- The path holds a character that ends it. -/
  | endsEarly
  /-- The file is on another machine. -/
  | unknownAuthority (authority : String)
  /-- A file name asks for a cache that does not exist. -/
  | unknownCache (word : String)
  /-- A file name asks for an access that does not exist. -/
  | unknownAccess (word : String)
  /-- A file name asks for more access than there is. -/
  | refusedAccess (word : String)
  /-- There is no such way to reach files. -/
  | unknownSystem (name : String)
  /-- The file cannot be opened. -/
  | cannotOpen
  /-- The file cannot be read. -/
  | cannotRead
  /-- There is no file to take the permissions from. -/
  | noPermissions
  deriving DecidableEq, Repr

namespace StorageError

/-- An error in how the connection is described. -/
def configuration (reason : String) : String := "error with configuration: " ++ reason

/-- An error of the database engine, with its number. -/
def engine (code : Nat) (reason : String) : String :=
  "error returned from database: (code: " ++ Nat.repr code ++ ") " ++ reason

/-- Why a database cannot be found or opened, in words. -/
def message : StorageError → String
  | .notText fault => configuration fault.message
  | .unknownValue name value =>
    configuration ("unknown value " ++ String.ofList (Text.escaped value.toList)
      ++ " for \x60" ++ name ++ "\x60")
  | .unknownParameter name =>
    configuration ("unknown query parameter \x60" ++ name ++ "\x60 while parsing connection URL")
  | .endsEarly =>
    "error communicating with database: filename passed to SQLite must not contain nul bytes"
  | .unknownAuthority authority => engine 1 ("invalid uri authority: " ++ authority)
  | .unknownCache word => engine 1 ("no such cache mode: " ++ word)
  | .unknownAccess word => engine 1 ("no such access mode: " ++ word)
  | .refusedAccess word => engine 3 ("access mode not allowed: " ++ word)
  | .unknownSystem name => engine 1 ("no such vfs: " ++ name)
  | .cannotOpen => engine 14 "unable to open database file"
  | .cannotRead => engine 266 "disk I/O error"
  | .noPermissions => engine 1802 "disk I/O error"

end StorageError

end SqlUpdate
