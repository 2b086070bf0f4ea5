import SqlUpdate.Value.Basic
/-!
# Tables and columns

* `Column` — a column as expressions and assignments refer to it.
* `Table` — a name and the columns registered for it, each once, in the order of registration.
* `Table.addColumn` — registers a column; a name that is registered already only changes its type.
-/

namespace SqlUpdate

/-- A column of a table. -/
structure Column where
  /-- The name of the table. -/
  table : String
  /-- The name of the column. -/
  name : String
  /-- The type that values of the column are bound with. -/
  type : ColumnType
  deriving DecidableEq, Repr, Inhabited

/-- The name of a column behind the name of its table, without any quotes. -/
def Column.qualifiedName (c : Column) : String := c.table ++ "." ++ c.name

/-- The names of the table and of the column, which tell a column from all others. -/
def Column.key (c : Column) : String × String := (c.table, c.name)

/-- A table. -/
structure Table where
  /-- The name of the table. -/
  name : String
  /-- The names of its columns and their types. -/
  fields : List (String × ColumnType)
  deriving DecidableEq, Repr, Inhabited

/-- Registers a name with a type: a new name goes to the end, a known one keeps its place. -/
def retype (name : String) (type : ColumnType) :
    List (String × ColumnType) → List (String × ColumnType)
  | [] => [(name, type)]
  | f :: fs => if f.1 = name then (name, type) :: fs else f :: retype name type fs

namespace Table

/-- A table without columns. -/
def empty (name : String) : Table := ⟨name, []⟩

/-- The columns of the table. -/
def columns (t : Table) : List Column := t.fields.map fun f => ⟨t.name, f.1, f.2⟩

/-- The column of a name. -/
def column? (t : Table) (name : String) : Option Column := t.columns.find? fun c => c.name = name

/-- Registers a column. -/
def addColumn (t : Table) (name : String) (type : ColumnType) : Table :=
  { t with fields := retype name type t.fields }

/-- The column that registering a name with a type gives. -/
def columnOf (t : Table) (name : String) (type : ColumnType) : Column := ⟨t.name, name, type⟩

/-- A table with the given columns, registered in turn. -/
def ofFields (name : String) (fields : List (String × ColumnType)) : Table :=
  fields.foldl (fun t f => t.addColumn f.1 f.2) (empty name)

end Table

end SqlUpdate
