import SqlUpdate.Schema.Join
import SqlUpdate.Expr.Rendering
/-!
# Writing joins

* `JoinPart.conditionPieces` — what a part says behind `ON`: the pairs of equal columns, then the
  constraint between parentheses. Values are written as literals, so that nothing is bound.
* `Join.pieces` — the leading table and, for every part, how its table is joined.
-/

namespace SqlUpdate

/-- Two columns that must be equal. -/
def pairPieces (p : Column × Column) : List Piece :=
  Piece.qualified p.1 ++ .sql " = " :: Piece.qualified p.2

/-- A constraint with literals in place of its arguments. -/
def constraintPieces (e : Expr) : List Piece := parenthesized (e.pieces.map Piece.inlined)

namespace JoinPart

/-- The conditions of the part. -/
def conditions (p : JoinPart) : List (List Piece) :=
  p.pairs.map pairPieces ++ (p.constraint.map constraintPieces).toList

/-- The conditions of the part, all of which must hold. -/
def conditionPieces (p : JoinPart) : List Piece := separated " AND " p.conditions

/-- The part as it is written behind the tables before it. -/
def pieces (p : JoinPart) : List Piece :=
  [.sql " ", .sql p.kind.sql, .sql " ", .name p.table.name]
    ++ (if p.hasConditions then .sql " ON " :: p.conditionPieces else [])

end JoinPart

/-- The join as it is written. -/
def Join.pieces (j : Join) : List Piece := .name j.lead.name :: j.parts.flatMap JoinPart.pieces

end SqlUpdate
