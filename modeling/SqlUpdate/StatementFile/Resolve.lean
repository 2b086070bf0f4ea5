import SqlUpdate.StatementFile.Basic
import SqlUpdate.Update.Basic
import SqlUpdate.Json.Printer
import SqlUpdate.Value.Json
import SqlUpdate.Text.Cut
/-!
# The statement of a file

* `Schema.table`, `Schema.column` — look up a name among the declared tables; of tables with one
  name the first is meant.
* `Value.ofScalar` — a JSON value that can be bound.
* `StatementFile.statement` — the UPDATE that a file describes, or what is wrong with the first
  thing that is wrong: in the target, then in the assignments, then in the conditions.
-/

namespace SqlUpdate

/-- An error about an argument. -/
def invalid {α : Type} (cause : InvalidArgument) : Except Error α := .error (.invalidArgument cause)

/-- What is found, or else an error. -/
def found {α : Type} (cause : InvalidArgument) : Option α → Except Error α
  | some a => .ok a
  | none => invalid cause

/-- The declared tables. -/
abbrev Schema := List Table

namespace Schema

/-- The table of a name. -/
def table (schema : Schema) (name : String) : Except Error Table :=
  found (.unknownTable name) (schema.find? fun t => t.name = name)

/-- The column of a name that is written behind the name of its table. The first point ends the
name of the table. -/
def column (schema : Schema) (name : String) : Except Error Column := do
  let (table, column) ← found (.notQualified name) (Text.splitOnce? '.' name.toList)
  let t ← schema.table (String.ofList table)
  found (.unknownColumn name) (t.column? (String.ofList column))

end Schema

/-- The value of a JSON scalar: a number is a whole one if it fits 64 bits with a sign, and a double
otherwise. -/
def Value.ofScalar? (j : Json) : Option Value :=
  match j with
  | .null => some .null
  | .bool b => some (.bool b)
  | .number _ => Value.intOfJson? j <|> Value.floatOfJson? j
  | .string s => s.map .text
  | .array _ | .object _ => none

/-- A JSON value that can be bound. -/
def Value.ofScalar (j : Json) : Except Error Value :=
  found (.notScalar (String.ofList (j.canonical?.getD j).compact)) (Value.ofScalar? j)

/-- A declared table. -/
def TableDeclaration.table (t : TableDeclaration) : Table := Table.ofFields t.name t.columns

/-- A pair of columns. -/
def resolvePair (schema : Schema) (p : String × String) : Except Error (Column × Column) := do
  let c ← schema.column p.1
  let d ← schema.column p.2
  .ok (c, d)

/-- A joined table. Its columns are looked up before the table itself. -/
def PartDeclaration.resolve (schema : Schema) (p : PartDeclaration) : Except Error JoinPart := do
  let pairs ← p.pairs.mapM (resolvePair schema)
  let t ← schema.table p.table
  .ok ⟨p.kind, t, pairs, none⟩

/-- What is updated. -/
def TargetDeclaration.resolve (schema : Schema) : TargetDeclaration → Except Error Target
  | .table name => do
    let t ← schema.table name
    .ok (.table t)
  | .join lead parts => do
    let t ← schema.table lead
    let parts ← parts.mapM (PartDeclaration.resolve schema)
    .ok (.join ⟨t, parts⟩)

/-- An assignment: either a value or a column that is copied. -/
def AssignmentDeclaration.resolve (schema : Schema) (a : AssignmentDeclaration) :
    Except Error Assignment := do
  let c ← schema.column a.column
  match a.value, a.source with
  | some j, none => do
    let v ← Value.ofScalar j
    .ok ⟨c, .value v⟩
  | none, some source => do
    let d ← schema.column source
    .ok ⟨c, .expr (.column d)⟩
  | _, _ => invalid (.assignedOnce a.column)

/-- A condition. A value that nothing is compared with is passed over. -/
def ConditionDeclaration.resolve (schema : Schema) (d : ConditionDeclaration) :
    Except Error Expr := do
  let c ← schema.column d.column
  match d.comparison with
  | .compare op => do
    let j ← found (.missingValue d.column) d.value
    let v ← Value.ofScalar j
    .ok (c.compare op v)
  | .isNull => .ok c.isNull
  | .isNotNull => .ok c.isNotNull

namespace StatementFile

/-- The declared tables. -/
def schema (f : StatementFile) : Schema := f.tables.map TableDeclaration.table

/-- The statement that the file describes. -/
def statement (f : StatementFile) : Except Error Update := do
  let target ← f.target.resolve f.schema
  let assignments ← f.assignments.mapM (AssignmentDeclaration.resolve f.schema)
  let conditions ← f.conditions.mapM (ConditionDeclaration.resolve f.schema)
  let u := assignments.foldl (fun u a => u.assign a.column a.assigned) (Update.of target)
  let u := conditions.foldl Update.alsoFilterBy u
  .ok (f.limit.elim u u.limitTo)

end StatementFile

end SqlUpdate
