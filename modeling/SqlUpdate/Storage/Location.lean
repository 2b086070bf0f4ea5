import SqlUpdate.Storage.Connection
/-!
# Where database files are

The name of a database file may be a URI: `file:`, a path, settings behind a question mark, and a
fragment behind a number sign that means nothing. Percent signs are read once more there.

* `Location` — what a file name says.
* `Location.ofUri` — what a URI says.
* `Location.storage` — where the database is kept; a way to reach files may be kept in memory.
* `Storage.ofUrl` — where the database that a URL connects to is kept.
-/

namespace SqlUpdate

/-- What the name of a database file says. -/
structure Location where
  /-- The path to the file. -/
  path : List UInt8
  /-- What may be done with the file. -/
  access : Access
  /-- The way to reach files, if not the usual one. -/
  system : Option String
  /-- The path to the file that has the permissions which this one gets if it is made. -/
  modeOf : Option (List UInt8)
  deriving DecidableEq, Repr

namespace Location

/-! ### URIs -/

/-- The bytes before the one that ends a text. -/
def beforeEnd (bytes : List UInt8) : List UInt8 := bytes.takeWhile (· ≠ 0)

/-- The bytes that a path, a name or a value in a URI stands for. -/
def uriBytes (cs : List Char) : List UInt8 := beforeEnd (Percent.octets cs)

/-- A URI without the scheme, without the machine that the file is on: that must be this one. -/
def withoutAuthority : List Char → Except StorageError (List Char)
  | '/' :: '/' :: cs =>
    let authority := String.ofList (cs.takeWhile (· ≠ '/'))
    if authority = "" ∨ authority = "localhost" then .ok (cs.dropWhile (· ≠ '/'))
    else .error (.unknownAuthority authority)
  | cs => .ok cs

/-- The names and values of the settings in a URI. Those without a name mean nothing. -/
def settings (query : List Char) : List (String × List UInt8) :=
  ((Connection.pairs query).map fun p => (Utf8.text (uriBytes p.1), uriBytes p.2)).filter
    fun p => p.1 ≠ ""

/-- The location with one more setting. A setting that does not exist means nothing; of several
files to take permissions from, the first one counts. -/
def withSetting (l : Location) (setting : String × List UInt8) : Except StorageError Location :=
  let (name, value) := setting
  let word := Utf8.text value
  match name with
  | "vfs" => .ok { l with system := some word }
  | "cache" => if word = "private" ∨ word = "shared" then .ok l else .error (.unknownCache word)
  | "mode" =>
    match Access.ofWord? word with
    | some a =>
      if l.access.allows a then .ok { l with access := a } else .error (.refusedAccess word)
    | none => .error (.unknownAccess word)
  | "modeof" => .ok { l with modeOf := l.modeOf.or (some value) }
  | _ => .ok l

/-- The location that a URI without the scheme names, if not more than an access is asked for. -/
def ofUri (access : Access) (uri : List Char) : Except StorageError Location := do
  let body := (← withoutAuthority uri).takeWhile (· ≠ '#')
  let (place, query) := (Text.splitOnce? '?' body).getD (body, [])
  (settings query).foldlM withSetting ⟨uriBytes place, access, none, none⟩

/-! ### File names -/

/-- A space made a plus sign. -/
def spaceToPlus (c : Char) : Char := if c = ' ' then '+' else c

/-- The bytes of some characters before the one that ends a text. -/
def bytesBeforeEnd (cs : List Char) : List UInt8 := beforeEnd (Utf8.bytes (String.ofList cs))

/-- The location that a connection asks for. The file name is no URI if more is asked for than an
access. -/
def ofConnection (c : Connection) : Except StorageError Location :=
  if c.immutable ∨ c.system.isSome then
    let system := c.system.map fun s => Utf8.text (bytesBeforeEnd (s.toList.map spaceToPlus))
    .ok ⟨bytesBeforeEnd c.name, c.access, system, none⟩
  else if c.name.contains '\x00' then .error .endsEarly
  else
    match Text.dropLeading? "file:".toList c.name with
    | some uri => ofUri c.access uri
    | none => .ok ⟨Utf8.bytes (String.ofList c.name), c.access, none, none⟩

/-! ### Ways to reach files -/

/-- The ways to reach files. -/
def systems : List String := ["unix", "unix-none", "unix-dotfile", "unix-excl", "memdb"]

/-- The way to reach files that are kept in memory. -/
def memorySystem : String := "memdb"

/-- How many bytes the path of a file that is kept in memory has at most. -/
def memoryPathLimit : Nat := 1016

/-- Where the database of a location is kept. -/
def storage (l : Location) : Except StorageError Storage :=
  let s : Storage := ⟨l.path, l.access, l.modeOf⟩
  match l.system with
  | none => .ok s
  | some system =>
    if system ∉ systems then .error (.unknownSystem system)
    else if system ≠ memorySystem then .ok s
    else if s.isInMemory ∨ l.path.length ≤ memoryPathLimit then .ok .memory
    else .error .cannotOpen

end Location

/-- Where the database that a URL connects to is kept. -/
def Storage.ofUrl (url : String) : Except StorageError Storage := do
  let c ← Connection.ofUrl url
  let l ← Location.ofConnection c
  l.storage

end SqlUpdate
