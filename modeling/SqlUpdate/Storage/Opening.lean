import SqlUpdate.Directory
import SqlUpdate.Storage.Basic
/-!
# Opening databases

* `Directory.resolve?` — the names that lead from the root to what a path leads to. In contrast to
  reading, a name that leads nowhere may be left again by going up.
* `Directory.openStorage` — whether the database that is kept in a place can be opened.
-/

namespace SqlUpdate.Directory

/-- The number of bytes in a path from the root by some names. -/
def pathLength (place : List Name) : Nat := place.foldl (fun total n => total + n.length + 1) 0

/-- How many bytes a path has at most while it is looked up. -/
def resolvedLimit : Nat := 511

/-- How many bytes the path of a database has at most, so that its journal can have a longer one. -/
def databasePathLimit : Nat := 504

/-- Whether a name can be looked up behind others: these lead to no file, it is not too long for a
directory, and the path does not become too long. -/
def canLookUp (d : Directory) (place : List Name) (name : Name) : Bool :=
  (d.text? place).isNone && (name.length ≤ nameLimit || !d.hasDirectory place)
    && pathLength (place ++ [name]) ≤ resolvedLimit

/-- Goes on from a place by names, and takes back a name where one goes up. -/
def resolve? (d : Directory) (place : List Name) : List Name → Option (List Name)
  | [] => some place
  | n :: ns =>
    if isStay n then resolve? d place ns
    else if n = above then resolve? d place.dropLast ns
    else if d.canLookUp place n then resolve? d (place ++ [n]) ns
    else none

/-- Opens the file that names lead to. -/
def openAt (d : Directory) (place : List Name) (access : Access) : Except StorageError Unit :=
  if d.hasDirectory place then
    .error (if access = .readOnly then .cannotRead else .cannotOpen)
  else if (d.text? place).isSome ∨ (access = .create ∧ d.hasDirectory place.dropLast) then .ok ()
  else .error .cannotOpen

/-- Opens the database that is kept in a place. -/
def openStorage (d : Directory) (s : Storage) : Except StorageError Unit :=
  if s.isInMemory then .ok ()
  else
    match d.resolve? (d.origin s.path) (names s.path) with
    | none | some [] => .error .cannotOpen
    | some place =>
      if databasePathLimit < pathLength place then .error .cannotOpen
      else if s.modeOf.all d.has then d.openAt place s.access
      else .error .noPermissions

end SqlUpdate.Directory
