import SqlUpdate.Expr.Basic
/-!
# Joins

* `JoinKind`, `JoinPart`, `Join` — a leading table and the tables joined to it, with the columns
  compared for equality and at most one further constraint each.
* `Join.tables` — the tables of a join, each name once.
-/

namespace SqlUpdate

/-- How a table is joined to those before it. -/
inductive JoinKind where
  | inner
  | left
  | right
  | full
  | cross
  deriving DecidableEq, Repr, Inhabited

namespace JoinKind

/-- The kind of join in SQL. -/
def sql : JoinKind → String
  | inner => "INNER JOIN"
  | left => "LEFT JOIN"
  | right => "RIGHT JOIN"
  | full => "FULL JOIN"
  | cross => "CROSS JOIN"

/-- All kinds of join. -/
def all : List JoinKind := [inner, left, right, full, cross]

/-- The name of the kind in files. -/
def name : JoinKind → String
  | inner => "inner"
  | left => "left"
  | right => "right"
  | full => "full"
  | cross => "cross"

/-- The kind of a name. -/
def ofName? (s : String) : Option JoinKind := all.find? fun k => k.name = s

end JoinKind

/-- A table joined to those before it. -/
structure JoinPart where
  /-- How it is joined. -/
  kind : JoinKind
  /-- The table. -/
  table : Table
  /-- Pairs of columns that must be equal. -/
  pairs : List (Column × Column)
  /-- A further constraint, whose values are written as literals. -/
  constraint : Option Expr
  deriving Inhabited

/-- Whether the part says anything about which rows are joined. -/
def JoinPart.hasConditions (p : JoinPart) : Bool := !p.pairs.isEmpty || p.constraint.isSome

/-- Tables joined to a leading one. -/
structure Join where
  /-- The leading table. -/
  lead : Table
  /-- The other tables, in the order in which they are joined. -/
  parts : List JoinPart
  deriving Inhabited

/-- The first table of each name that is not known yet. -/
def firstOfEachName (known : List String) : List Table → List Table
  | [] => []
  | t :: ts =>
    if known.contains t.name then firstOfEachName known ts
    else t :: firstOfEachName (t.name :: known) ts

namespace Join

/-- A join of one table. -/
def ofTable (t : Table) : Join := ⟨t, []⟩

/-- The join with one more part. -/
def add (j : Join) (p : JoinPart) : Join := { j with parts := j.parts ++ [p] }

/-- Joins a table on the equality of two columns. -/
def on (j : Join) (kind : JoinKind) (t : Table) (c d : Column) : Join :=
  j.add ⟨kind, t, [(c, d)], none⟩

/-- Joins every row of a table. -/
def cross (j : Join) (t : Table) : Join := j.add ⟨.cross, t, [], none⟩

/-- The tables of the join, the leading one first, without those of a name that came before. -/
def tables (j : Join) : List Table := firstOfEachName [] (j.lead :: j.parts.map JoinPart.table)

/-- The table of a name. -/
def table? (j : Join) (name : String) : Option Table := j.tables.find? fun t => t.name = name

end Join

end SqlUpdate
