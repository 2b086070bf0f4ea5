import SqlUpdate.StatementFile.Basic
import SqlUpdate.Json.Members
import SqlUpdate.Json.Embedded
/-!
# Statement files as JSON

A file is one object. Every object in it has exactly the members named below, in any order; none may
be repeated and no other is known.

* `StatementFile.ofJson?` — the file that a document is: `tables`, `target` and `set`, and
  optionally `where` and `limit`.
* `StatementFile.read?` — the file that a JSON text is, if it nests no deeper than 127 levels.
-/

namespace SqlUpdate

namespace Json

/-- The members of an object that has no members but those named. -/
def record? (names : List String) (j : Json) : Option (List (String × Json)) := do
  let ms ← j.members?
  if isClosed names ms then some ms else none

/-- The items of an array, read one by one. -/
def listOf? {α : Type} (item : Json → Option α) (j : Json) : Option (List α) := do
  let items ← j.items?
  items.mapM item

/-- A member that must be there, read. -/
def field? {α : Type} (name : String) (read : Json → Option α) (ms : List (String × Json)) :
    Option α := do
  let j ← required? name ms
  read j

/-- A member that may be missing, read; what stands for a missing one is given. -/
def fieldOr? {α : Type} (name : String) (read : Json → Option α) (missing : α)
    (ms : List (String × Json)) : Option α := do
  match ← member? name ms with
  | some j => read j
  | none => some missing

/-- A document that may be `null`. -/
def nullable? {α : Type} (read : Json → Option α) : Json → Option (Option α)
  | .null => some none
  | j => (read j).map some

/-- The text of a word that a table of words knows. -/
def word? {α : Type} (table : String → Option α) (j : Json) : Option α := j.text?.bind table

/-- An array of two texts. -/
def textPair? (j : Json) : Option (String × String) := do
  match ← j.items? with
  | [a, b] => do
    let a ← a.text?
    let b ← b.text?
    some (a, b)
  | _ => none

/-- Any document, with those that it embeds in their places. It must have a canonical form. This
tells `null` from a missing member. -/
def present? (j : Json) : Option (Option Json) := do
  let j ← j.expand?
  let _ ← j.canonical?
  some (some j)

end Json

/-- A column with its type. -/
def columnOfJson? (j : Json) : Option (String × ColumnType) := do
  let ms ← j.record? ["name", "type"]
  let name ← Json.field? "name" Json.text? ms
  let type ← Json.field? "type" (Json.word? ColumnType.ofName?) ms
  some (name, type)

/-- A table with its columns. -/
def TableDeclaration.ofJson? (j : Json) : Option TableDeclaration := do
  let ms ← j.record? ["name", "columns"]
  let name ← Json.field? "name" Json.text? ms
  let columns ← Json.field? "columns" (Json.listOf? columnOfJson?) ms
  some ⟨name, columns⟩

/-- A joined table; it is joined by an inner join and on no columns unless something else is
said. -/
def PartDeclaration.ofJson? (j : Json) : Option PartDeclaration := do
  let ms ← j.record? ["table", "kind", "on"]
  let table ← Json.field? "table" Json.text? ms
  let kind ← Json.fieldOr? "kind" (Json.word? JoinKind.ofName?) .inner ms
  let pairs ← Json.fieldOr? "on" (Json.listOf? Json.textPair?) [] ms
  some ⟨table, kind, pairs⟩

/-- A leading table and the tables joined to it. -/
def joinOfJson? (j : Json) : Option TargetDeclaration := do
  let ms ← j.record? ["from", "parts"]
  let lead ← Json.field? "from" Json.text? ms
  let parts ← Json.field? "parts" (Json.listOf? PartDeclaration.ofJson?) ms
  some (.join lead parts)

/-- What is updated: an object with the one member `table` or the one member `join`. -/
def TargetDeclaration.ofJson? (j : Json) : Option TargetDeclaration := do
  match ← j.members? with
  | [("table", t)] => t.text?.map .table
  | [("join", t)] => joinOfJson? t
  | _ => none

/-- An assignment. -/
def AssignmentDeclaration.ofJson? (j : Json) : Option AssignmentDeclaration := do
  let ms ← j.record? ["column", "value", "from_column"]
  let column ← Json.field? "column" Json.text? ms
  let value ← Json.fieldOr? "value" Json.present? none ms
  let source ← Json.fieldOr? "from_column" (Json.nullable? Json.text?) none ms
  some ⟨column, value, source⟩

/-- A condition. -/
def ConditionDeclaration.ofJson? (j : Json) : Option ConditionDeclaration := do
  let ms ← j.record? ["column", "op", "value"]
  let column ← Json.field? "column" Json.text? ms
  let comparison ← Json.field? "op" (Json.word? Comparison.ofName?) ms
  let value ← Json.fieldOr? "value" Json.present? none ms
  some ⟨column, comparison, value⟩

namespace StatementFile

/-- The file that a document is. -/
def ofJson? (j : Json) : Option StatementFile := do
  let ms ← j.record? ["tables", "target", "set", "where", "limit"]
  let tables ← Json.field? "tables" (Json.listOf? TableDeclaration.ofJson?) ms
  let target ← Json.field? "target" TargetDeclaration.ofJson? ms
  let assignments ← Json.field? "set" (Json.listOf? AssignmentDeclaration.ofJson?) ms
  let conditions ← Json.fieldOr? "where" (Json.listOf? ConditionDeclaration.ofJson?) [] ms
  let limit ← Json.fieldOr? "limit" (Json.nullable? Json.natural?) none ms
  some ⟨tables, target, assignments, conditions, limit⟩

/-- The file that a JSON text is. -/
def read? (s : String) : Option StatementFile := (Json.readShallow? s).bind ofJson?

end StatementFile

end SqlUpdate
