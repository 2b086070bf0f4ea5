import SqlUpdate.Update.Plan
/-!
# Writing an UPDATE

* `Plan.pieces` — a statement whose form is decided, as pieces.
* `aliased` — the numbers that the columns of the query of `Form.view` are called by: one for each
  assigned column, and one more for a value that is an expression.

A condition that follows other conditions stands between parentheses if it is a disjunction.
-/

namespace SqlUpdate

/-! ### Clauses -/

/-- An assigned column, qualified or not. -/
def assignedName (qualified : Bool) (c : Column) : List Piece :=
  if qualified then Piece.qualified c else [.name c.name]

/-- The assignments behind `SET`. -/
def setPieces (qualified : Bool) (as : List Assignment) : List Piece :=
  .sql " SET " :: separated ", " (as.map fun a =>
    assignedName qualified a.column ++ .sql " = " :: a.valuePieces)

/-- The condition on the rows behind `WHERE`. -/
def wherePieces : Option Expr → List Piece
  | none => []
  | some e => .sql " WHERE " :: e.pieces

/-- A condition that stands beside others. -/
def conjunctPieces (e : Expr) : List Piece := parenthesizedIf e.isDisjunction e.pieces

/-- A number as a piece. -/
def numberPiece (n : Nat) : Piece := .sql (Decimal.natural n)

/-- `TOP` with its number. -/
def topPieces : Option Nat → List Piece
  | none => []
  | some n => [.sql "TOP(", numberPiece n, .sql ") "]

/-- The condition that fewer rows than a number were met before. -/
def rownumPieces (n : Nat) : List Piece := [.sql "ROWNUM <= ", numberPiece n]

/-- A condition on `ROWNUM` alone. -/
def rownumClause : Option Nat → List Piece
  | none => []
  | some n => .sql " WHERE " :: rownumPieces n

/-! ### Forms -/

/-- An UPDATE of a table. -/
def tablePieces (t : Table) (limit : Option (LimitStyle × Nat)) (as : List Assignment)
    (filter : Option Expr) : List Piece :=
  match limit with
  | none =>
    .sql "UPDATE " :: .name t.name :: setPieces false as ++ wherePieces filter
  | some (.suffix, n) =>
    .sql "UPDATE " :: .name t.name :: setPieces false as ++ wherePieces filter
      ++ [.sql " LIMIT ", numberPiece n]
  | some (.top, n) =>
    .sql "UPDATE " :: topPieces (some n) ++ .name t.name :: setPieces false as
      ++ wherePieces filter
  | some (.rownum, n) =>
    .sql "UPDATE " :: .name t.name :: setPieces false as
      ++ match filter with
        | none => rownumClause (some n)
        | some e => .sql " WHERE " :: conjunctPieces e ++ .sql " AND " :: rownumPieces n

/-- The tables of a join other than the one that is updated. -/
def otherTables (t : Table) (j : Join) : List Table :=
  j.tables.filter fun u => u.name ≠ t.name

/-- The other tables behind `FROM`. -/
def fromPieces (t : Table) (j : Join) : List Piece :=
  match otherTables t j with
  | [] => []
  | ts => .sql " FROM " :: separated ", " (ts.map fun u => [.name u.name])

/-- The conditions of all parts of a join. -/
def joinConditions (j : Join) : List (List Piece) :=
  (j.parts.filter JoinPart.hasConditions).map JoinPart.conditionPieces

/-- The conditions of a join, and the condition on the rows behind them. -/
def joinedWherePieces (j : Join) (filter : Option Expr) : List Piece :=
  match joinConditions j with
  | [] => wherePieces filter
  | cs => .sql " WHERE " :: separated " AND " cs
    ++ match filter with
      | none => []
      | some e => .sql " AND " :: conjunctPieces e

/-- The conditions that rows are merged on. -/
def mergeConditions (part : JoinPart) : List Piece :=
  if part.hasConditions then part.conditionPieces else [.sql "TRUE"]

/-- How many columns of a query an assignment takes. -/
def Assignment.width (a : Assignment) : Nat :=
  match a.assigned with
  | .value _ => 1
  | .expr _ => 2

/-- The assignments with the numbers of their columns, counted on from a number. -/
def aliased (next : Nat) : List Assignment → List (Nat × Assignment)
  | [] => []
  | a :: as => (next, a) :: aliased (next + a.width) as

/-- The name that a column of a query is called by. -/
def aliasPiece (n : Nat) : Piece := .sql ("c" ++ Decimal.natural n)

/-- The columns of a query that an assignment takes. -/
def selectPieces (n : Nat) (a : Assignment) : List Piece :=
  Piece.qualified a.column ++ [.sql " ", aliasPiece n]
    ++ match a.assigned with
      | .value _ => []
      | .expr e => .sql ", " :: e.pieces ++ [.sql " ", aliasPiece (n + 1)]

/-- An assignment to a column of a query. -/
def viewSetPieces (n : Nat) (a : Assignment) : List Piece :=
  [.sql "x.", aliasPiece n, .sql " = "]
    ++ match a.assigned with
      | .value _ => a.valuePieces
      | .expr _ => [.sql "x.", aliasPiece (n + 1)]

/-- The statement as pieces. -/
def Plan.pieces (p : Plan) : List Piece :=
  match p.form with
  | .table t limit => tablePieces t limit p.assignments p.filter
  | .list j => .sql "UPDATE " :: j.pieces ++ setPieces true p.assignments ++ wherePieces p.filter
  | .from t j qualified top =>
    .sql "UPDATE " :: topPieces top ++ .name t.name :: setPieces qualified p.assignments
      ++ fromPieces t j ++ joinedWherePieces j p.filter
  | .merge t source part =>
    [.sql "MERGE INTO ", .name t.name, .sql " USING ", .name source.name, .sql " ON "]
      ++ mergeConditions part ++ .sql " WHEN MATCHED THEN UPDATE" :: setPieces true p.assignments
      ++ wherePieces p.filter
  | .view j limit =>
    let columns := aliased 0 p.assignments
    .sql "UPDATE (SELECT " :: separated ", " (columns.map fun c => selectPieces c.1 c.2)
      ++ .sql " FROM " :: j.pieces ++ wherePieces p.filter ++ .sql ") x SET "
      :: separated ", " (columns.map fun c => viewSetPieces c.1 c.2) ++ rownumClause limit

end SqlUpdate
