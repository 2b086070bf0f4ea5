import SqlUpdate.Decimal
import SqlUpdate.Dialect.Context
import SqlUpdate.Schema.Join
/-!
# What is reported

* `Event` — what happened.
* `Event.level`, `Event.message`, `Event.fields` — how it is reported.
* `Event.line` — the line of a log: the level in five columns, the message, and the fields.
-/

namespace SqlUpdate

/-- How much attention an event asks for. -/
inductive Level where
  | debug
  | info
  | warn
  deriving DecidableEq, Repr, Inhabited

/-- The level in five columns. -/
def Level.label : Level → String
  | debug => "DEBUG"
  | info => " INFO"
  | warn => " WARN"

/-- What happened. -/
inductive Event where
  /-- A dialect has been decided on. -/
  | resolved (ctx : Context)
  /-- A join of another kind is written as an inner join. -/
  | joinedInner (kind : JoinKind)
  /-- A statement was compiled. -/
  | compiled (d : Dialect) (sql : String)
  /-- A statement assigns nothing, so it is not executed. -/
  | nothingAssigned
  /-- A statement with so many arguments is given to the database. -/
  | executing (ctx : Context) (sql : String) (arguments : Nat)
  /-- So many rows were updated. -/
  | updated (rows : Nat)
  deriving DecidableEq, Repr

namespace Event

/-- How much attention the event asks for. -/
def level : Event → Level
  | .resolved _ | .updated _ => .info
  | .joinedInner _ => .warn
  | .compiled .. | .nothingAssigned | .executing .. => .debug

/-- A text between quotes; it must not hold any. -/
def quoted (s : String) : String := "\"" ++ s ++ "\""

/-- What the event is called. -/
def message : Event → String
  | .resolved _ => "resolved dialect"
  | .joinedInner _ => "All tables in UPDATE statement will be joined with inner join"
  | .compiled .. => "compiled UPDATE statement"
  | .nothingAssigned => "UPDATE without assignments, nothing to execute"
  | .executing .. => "executing UPDATE"
  | .updated rows => Decimal.natural rows ++ " row(s) updated."

/-- What belongs to the event, by name. -/
def fields : Event → List (String × String)
  | .resolved ctx => [("dialect", ctx.display)]
  | .joinedInner kind => [("join_type", quoted kind.sql)]
  | .compiled d sql => [("dialect", quoted d.name), ("sql", sql)]
  | .executing ctx sql arguments =>
    [("dialect", ctx.display), ("sql", sql), ("arguments", Decimal.natural arguments)]
  | .nothingAssigned | .updated _ => []

/-- The event as a line of a log. -/
def line (e : Event) : String :=
  e.level.label ++ " " ++ e.message
    ++ String.join (e.fields.map fun f => " " ++ f.1 ++ "=" ++ f.2)

end Event

end SqlUpdate
