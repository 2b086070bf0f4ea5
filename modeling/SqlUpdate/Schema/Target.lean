import SqlUpdate.Schema.Join
import SqlUpdate.Error
/-!
# What a statement updates

Only tables and joins can be updated; the other relations can be named, and are refused.

* `Target`, `Target.kind` — a relation, and which kind of relation it is.
* `Target.tables` — the tables that an UPDATE of the relation writes to.
-/

namespace SqlUpdate

/-- A relation. -/
inductive Target where
  /-- A table. -/
  | table (t : Table)
  /-- Several tables. -/
  | join (j : Join)
  /-- A table under another name. -/
  | aliased (t : Table) (name : String)
  /-- A query under a name. -/
  | subquery (sql : String) (name : String)
  deriving Inhabited

namespace Target

/-- Which kind of relation this is. -/
def kind : Target → TargetKind
  | .table _ => .table
  | .join _ => .join
  | .aliased .. => .aliased
  | .subquery .. => .subquery

/-- The tables that an UPDATE of the relation writes to. -/
def tables : Target → Except Error (List Table)
  | .table t => .ok [t]
  | .join j => .ok j.tables
  | t => .error (.unsupported (.noTargetTables t.kind))

end Target

end SqlUpdate
