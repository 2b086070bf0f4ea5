import SqlUpdate.Schema.Join
import SqlUpdate.Json.Basic
/-!
# Statement files

A statement file declares the tables that an UPDATE touches, and the UPDATE. Columns are named by
their table, a point, and their own name.

* `StatementFile` — what such a file says, before any name is looked up.
-/

namespace SqlUpdate

/-- A table that a file declares. -/
structure TableDeclaration where
  /-- Its name. -/
  name : String
  /-- The names and types of its columns. -/
  columns : List (String × ColumnType)
  deriving Inhabited

/-- A table that a file joins to those before it. -/
structure PartDeclaration where
  /-- The name of the table. -/
  table : String
  /-- How it is joined. -/
  kind : JoinKind
  /-- The names of columns that must be equal. -/
  pairs : List (String × String)
  deriving Inhabited

/-- What a file says is updated. -/
inductive TargetDeclaration where
  /-- A table. -/
  | table (name : String)
  /-- A join. -/
  | join (lead : String) (parts : List PartDeclaration)
  deriving Inhabited

/-- A column that a file assigns to. -/
structure AssignmentDeclaration where
  /-- The name of the column. -/
  column : String
  /-- The value it is set to, if one is given. -/
  value : Option Json
  /-- The name of the column that it is copied from, if one is given. -/
  source : Option String
  deriving Inhabited

/-- How a column is compared in a file. -/
inductive Comparison where
  /-- With a value, by an operator. -/
  | compare (op : BinaryOp)
  /-- It must have no value. -/
  | isNull
  /-- It must have a value. -/
  | isNotNull
  deriving DecidableEq, Repr, Inhabited

/-- The comparison of a name. -/
def Comparison.ofName? : String → Option Comparison
  | "eq" => some (.compare .eq)
  | "not_eq" => some (.compare .ne)
  | "lt" => some (.compare .lt)
  | "lt_eq" => some (.compare .le)
  | "gt" => some (.compare .gt)
  | "gt_eq" => some (.compare .ge)
  | "like" => some (.compare .like)
  | "not_like" => some (.compare .notLike)
  | "is_null" => some .isNull
  | "is_not_null" => some .isNotNull
  | _ => none

/-- A condition on a column in a file. -/
structure ConditionDeclaration where
  /-- The name of the column. -/
  column : String
  /-- How it is compared. -/
  comparison : Comparison
  /-- The value it is compared with, if one is given. -/
  value : Option Json
  deriving Inhabited

/-- What a statement file says. -/
structure StatementFile where
  /-- The tables. -/
  tables : List TableDeclaration
  /-- What is updated. -/
  target : TargetDeclaration
  /-- The assignments. -/
  assignments : List AssignmentDeclaration
  /-- The conditions on the rows, all of which must hold. -/
  conditions : List ConditionDeclaration
  /-- How many rows are updated at most. -/
  limit : Option Nat
  deriving Inhabited

end SqlUpdate
