import SqlUpdate.Dialect.Basic
import SqlUpdate.Schema.Table
/-!
# Errors

* `Error` — why a statement cannot be compiled or read: nothing is assigned, a construct is not
  supported, or an argument is invalid; the last two say which.
* `Error.message` — the wording.
-/

namespace SqlUpdate

/-- The kinds of relation. -/
inductive TargetKind where
  | table
  | join
  | aliased
  | subquery
  deriving DecidableEq, Repr, Inhabited

/-- The name of the kind in messages. -/
def TargetKind.name : TargetKind → String
  | table => "Table"
  | join => "Join"
  | aliased => "Alias"
  | subquery => "Subquery"

/-- A construct that is not supported. -/
inductive Unsupported where
  /-- The relation is not one that can be updated. -/
  | target (kind : TargetKind)
  /-- The relation has no tables that an UPDATE could write to. -/
  | noTargetTables (kind : TargetKind)
  /-- The dialect cannot limit the rows of an UPDATE. -/
  | limit (d : Dialect)
  /-- The dialect cannot limit the rows of an UPDATE of several tables. -/
  | limitOfTables (d : Dialect)
  /-- The dialect cannot limit the rows of an UPDATE with a join clause. -/
  | limitOfJoin (d : Dialect)
  /-- The dialect has no UPDATE with a join clause. -/
  | join (d : Dialect)
  /-- The dialect joins one table at most. -/
  | severalParts (d : Dialect)
  /-- The dialect cannot bind arguments in the value of this column. -/
  | argumentInView (d : Dialect) (c : Column)
  deriving DecidableEq, Repr

/-- An argument that is invalid. -/
inductive InvalidArgument where
  /-- The table of an assigned column is not joined. -/
  | notInJoin (c : Column)
  /-- The assigned columns belong to several tables. -/
  | severalTables (d : Dialect)
  /-- A word names no dialect. -/
  | unknownDialect (word : String)
  /-- A word names no mode. -/
  | unknownMode (word : String)
  /-- A text has no scheme. -/
  | notAUrl (url : String)
  /-- A scheme names no database. -/
  | unknownScheme (scheme : String)
  /-- A table is not declared. -/
  | unknownTable (name : String)
  /-- The name of a column does not name its table. -/
  | notQualified (name : String)
  /-- A column is not declared. -/
  | unknownColumn (name : String)
  /-- An assignment has no value, or several. -/
  | assignedOnce (name : String)
  /-- A condition lacks the value to compare with. -/
  | missingValue (name : String)
  /-- A value is an array or an object, written like this. -/
  | notScalar (json : String)
  deriving DecidableEq, Repr

/-- Why a statement cannot be compiled or read. -/
inductive Error where
  /-- Nothing is assigned. -/
  | emptyAssignments
  /-- A construct is not supported. -/
  | unsupported (cause : Unsupported)
  /-- An argument is invalid. -/
  | invalidArgument (cause : InvalidArgument)
  deriving DecidableEq, Repr

/-- What is not supported, in words. -/
def Unsupported.message : Unsupported → String
  | .target kind => "UPDATE with " ++ kind.name ++ " unsupported"
  | .noTargetTables kind => kind.name ++ " has no target tables"
  | .limit d => d.name ++ " doesn't support LIMIT in UPDATE clause"
  | .limitOfTables d => d.name ++ " doesn't support LIMIT in a multi-table UPDATE"
  | .limitOfJoin d => d.name ++ " doesn't support LIMIT in UPDATE with a join clause"
  | .join d => "UPDATE with a join clause is unsupported by the " ++ d.name ++ " dialect"
  | .severalParts d => d.name ++ " supports a join update with only one table to join"
  | .argumentInView d c =>
    d.name ++ " can't bind parameters inside the value of " ++ c.qualifiedName ++ " in a join UPDATE"

/-- What is invalid, in words. -/
def InvalidArgument.message : InvalidArgument → String
  | .notInJoin c => "column " ++ c.qualifiedName ++ " is not part of the join"
  | .severalTables d => d.name ++ " supports a join update with columns of a single table only"
  | .unknownDialect word => "unknown dialect: " ++ word
  | .unknownMode word => "unknown H2 mode: " ++ word
  | .notAUrl url => "not a database URL: " ++ url
  | .unknownScheme scheme => "unsupported database scheme: " ++ scheme
  | .unknownTable name => "unknown table: " ++ name
  | .notQualified name => "column " ++ name ++ " must be written table.column"
  | .unknownColumn name => "unknown column: " ++ name
  | .assignedOnce name =>
    "assignment of " ++ name ++ " needs exactly one of \x60value\x60 or \x60from_column\x60"
  | .missingValue name => "condition on " ++ name ++ " needs a value"
  | .notScalar json => "only scalar values can be bound, got " ++ json

/-- The error in words. -/
def Error.message : Error → String
  | .emptyAssignments => "can't prepare UPDATE statement without fields to update"
  | .unsupported cause => cause.message
  | .invalidArgument cause => "invalid argument: " ++ cause.message

end SqlUpdate
