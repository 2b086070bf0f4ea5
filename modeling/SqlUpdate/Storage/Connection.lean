import SqlUpdate.Storage.Basic
import SqlUpdate.Text.Cut
import SqlUpdate.Text.Percent
/-!
# Connections to SQLite databases

* `Connection` — what is asked for when a database is opened.
* `Connection.ofUrl` — what a URL asks for: a file name behind the scheme, and parameters behind a
  question mark. A parameter that does not exist is refused, and so is a value that it does not
  have.
-/

namespace SqlUpdate

/-- What is asked for when a database is opened. -/
structure Connection where
  /-- The name of the file: a path to it, or a URI of it. -/
  name : List Char
  /-- What may be done with the file. -/
  access : Access
  /-- Whether nobody else changes the file. -/
  immutable : Bool
  /-- The way to reach files, if not the usual one. -/
  system : Option String
  deriving DecidableEq, Repr

namespace Connection

/-- A connection to a file that exists. -/
def toFile (name : List Char) : Connection := ⟨name, .readWrite, false, none⟩

/-- A connection to a database in memory. -/
def inMemory : Connection := ⟨[], .memory, false, none⟩

/-! ### Parameters -/

/-- The names and values in a query. An ampersand separates one pair from the next, and an equals
sign a name from its value. -/
def pairs (query : List Char) : List (List Char × List Char) :=
  ((Text.splitAll '&' query).filter fun p => p ≠ []).map fun p =>
    (Text.splitOnce? '=' p).getD (p, [])

/-- The names and values of the parameters in the query of a URL. -/
def parameters (query : List Char) : List (String × String) :=
  (pairs query).map fun p => (Percent.formText p.1, Percent.formText p.2)

/-- The truth value that a word names. -/
def truth? : String → Option Bool
  | "true" | "1" => some true
  | "false" | "0" => some false
  | _ => none

/-- The connection with one more parameter. -/
def withParameter (c : Connection) (parameter : String × String) :
    Except StorageError Connection :=
  let (name, value) := parameter
  let unknown : Except StorageError Connection := .error (.unknownValue name value)
  match name with
  | "mode" =>
    match Access.ofWord? value with
    | some a => .ok { c with access := c.access.both a }
    | none => unknown
  | "cache" => if value = "private" ∨ value = "shared" then .ok c else unknown
  | "immutable" =>
    match truth? value with
    | some b => .ok { c with immutable := b }
    | none => unknown
  | "vfs" => .ok { c with system := some value }
  | name => .error (.unknownParameter name)

/-! ### URLs -/

/-- The characters behind all repetitions of some leading ones. -/
def dropRepeated (leading : List Char) (hleading : leading ≠ []) (cs : List Char) : List Char :=
  match hrest : Text.dropLeading? leading cs with
  | some rest =>
    have : rest.length < cs.length := by
      have hpos := List.length_pos_iff.2 hleading
      rw [Text.eq_append_of_dropLeading? hrest, List.length_append]
      omega
    dropRepeated leading hleading rest
  | none => cs
termination_by cs.length

/-- The scheme. -/
def scheme : List Char := "sqlite:".toList

/-- A URL without the scheme, with two slashes or without them. -/
def withoutScheme (url : List Char) : List Char :=
  dropRepeated scheme (by decide) (dropRepeated (scheme ++ ['/', '/']) (by decide) url)

/-- The connection to the file with the name that a URL holds. -/
def ofPlace (place : List Char) : Except StorageError Connection :=
  if place = Storage.memoryPath.toList then .ok inMemory
  else
    match Utf8.chars (Percent.octets place) with
    | .ok name => .ok (toFile name)
    | .error fault => .error (.notText fault)

/-- The connection that a URL asks for. -/
def ofUrl (url : String) : Except StorageError Connection := do
  let body := withoutScheme url.toList
  let (place, query) := (Text.splitOnce? '?' body).getD (body, [])
  let c ← ofPlace place
  (parameters query).foldlM withParameter c

end Connection

end SqlUpdate
