import SqlUpdate.Schema.Table
/-!
# Registering columns

* `Shorthand` — the common types, each of which has a call of its own that registers a column.
* `Registration` — a call that registers a column, as data, so that whole runs can be spoken of.
* `Table.register`, `Table.registerAll` — the columns that calls give, and the table they leave.
-/

namespace SqlUpdate

/-- The common types, by the calls that register a column with them. -/
inductive Shorthand where
  | bool
  | integer
  | long
  | double
  | varchar
  | text
  | blob
  deriving DecidableEq, Repr, Inhabited

/-- The type of a shorthand. -/
def Shorthand.type : Shorthand → ColumnType
  | bool => .boolean
  | integer => .integer
  | long => .bigInt
  | double => .double
  | varchar => .varchar
  | text => .text
  | blob => .blob

/-- A call that registers a column. -/
inductive Registration where
  /-- With any type. -/
  | typed (name : String) (type : ColumnType)
  /-- With a common type. -/
  | common (shorthand : Shorthand) (name : String)
  deriving DecidableEq, Repr, Inhabited

namespace Registration

/-- The name that is registered. -/
def name : Registration → String
  | .typed name _ | .common _ name => name

/-- The type that it is registered with. -/
def type : Registration → ColumnType
  | .typed _ type => type
  | .common shorthand _ => shorthand.type

end Registration

namespace Table

/-- The column that a call gives, and the table that it leaves. -/
def register (t : Table) : Registration → Column × Table
  | .typed name type => (t.columnOf name type, t.addColumn name type)
  | .common shorthand name => (t.columnOf name shorthand.type, t.addColumn name shorthand.type)

/-- The columns that calls give in turn, and the table that they leave. -/
def registerAll (t : Table) : List Registration → List Column × Table
  | [] => ([], t)
  | r :: rs =>
    let given := t.register r
    let rest := given.2.registerAll rs
    (given.1 :: rest.1, rest.2)

theorem register_eq (t : Table) (r : Registration) :
    t.register r = (⟨t.name, r.name, r.type⟩, t.addColumn r.name r.type) := by
  cases r <;> rfl

end Table

end SqlUpdate
