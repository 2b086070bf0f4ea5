import SqlUpdate.Expr.Basic
import SqlUpdate.Piece
/-!
# Writing expressions

* `Expr.pieces` — an expression as pieces. Parentheses stand around an operand that is itself an
  operator and binds weaker than what surrounds it.
* `Expr.argumentsOf_pieces` — writing an expression binds its arguments from left to right.
-/

namespace SqlUpdate

/-- Whether an operand of an operator needs parentheses: a conjunction or disjunction does inside
any other operator, and arithmetic does inside arithmetic. -/
def Expr.needsParens (parent : BinaryOp) : Expr → Bool
  | .binary op _ _ =>
    (op.isLogical && decide (op ≠ parent)) || (op.isArithmetic && parent.isArithmetic)
  | _ => false

/-- Pieces between parentheses. -/
def parenthesized (ps : List Piece) : List Piece := .sql "(" :: (ps ++ [.sql ")"])

/-- Pieces between parentheses if those are needed. -/
def parenthesizedIf (needed : Bool) (ps : List Piece) : List Piece :=
  if needed then parenthesized ps else ps

namespace Expr

mutual
/-- The expression as pieces. -/
def pieces : Expr → List Piece
  | .column c => Piece.qualified c
  | .argument a => [.argument a]
  | .raw s => [.raw s]
  | .binary op e f =>
    parenthesizedIf (e.needsParens op) e.pieces
      ++ [.sql " ", .sql op.sql, .sql " "]
      ++ parenthesizedIf (f.needsParens op) f.pieces
  | .not e => .sql "NOT " :: parenthesizedIf e.isBinary e.pieces
  | .isNull negated e => e.pieces ++ [.sql (if negated then " IS NOT NULL" else " IS NULL")]
  | .inList negated e items =>
    e.pieces ++ [.sql (if negated then " NOT IN (" else " IN (")]
      ++ separated ", " (itemPieces items) ++ [.sql ")"]
  | .between negated e low high =>
    e.pieces ++ [.sql (if negated then " NOT BETWEEN " else " BETWEEN ")]
      ++ low.pieces ++ [.sql " AND "] ++ high.pieces
  | .paren e => parenthesized e.pieces

/-- The items of a list as pieces. -/
def itemPieces : List Expr → List (List Piece)
  | [] => []
  | e :: es => e.pieces :: itemPieces es
end

end Expr

/-- Parentheses bind nothing. -/
@[simp] theorem argumentsOf_parenthesized (ps : List Piece) :
    argumentsOf (parenthesized ps) = argumentsOf ps := by
  simp [parenthesized]

/-- Parentheses bind nothing, needed or not. -/
@[simp] theorem argumentsOf_parenthesizedIf (needed : Bool) (ps : List Piece) :
    argumentsOf (parenthesizedIf needed ps) = argumentsOf ps := by
  cases needed <;> simp [parenthesizedIf]

/-- Separators bind nothing. -/
@[simp] theorem argumentsOf_separated (separator : String) (pss : List (List Piece)) :
    argumentsOf (separated separator pss) = pss.flatMap argumentsOf := by
  induction pss with
  | nil => rfl
  | cons ps pss ih =>
    cases pss with
    | nil => simp [separated]
    | cons qs pss => simp [separated, ih]

namespace Expr

mutual
/-- Writing an expression binds its arguments from left to right. -/
theorem argumentsOf_pieces : (e : Expr) → argumentsOf e.pieces = e.arguments
  | .column _ | .argument _ | .raw _ => rfl
  | .binary _ e f => by
    simp [pieces, arguments, argumentsOf_pieces e, argumentsOf_pieces f]
  | .not e => by
    rw [pieces, arguments, argumentsOf_sql, argumentsOf_parenthesizedIf, argumentsOf_pieces e]
  | .isNull _ e => by simp [pieces, arguments, argumentsOf_pieces e]
  | .inList _ e items => by
    simp [pieces, arguments, argumentsOf_pieces e, argumentsOf_itemPieces items]
  | .between _ e low high => by
    simp [pieces, arguments, argumentsOf_pieces e, argumentsOf_pieces low, argumentsOf_pieces high]
  | .paren e => by simp [pieces, arguments, argumentsOf_pieces e]

/-- Writing the items of a list binds their arguments in turn. -/
theorem argumentsOf_itemPieces :
    (es : List Expr) → (itemPieces es).flatMap argumentsOf = argumentsOfItems es
  | [] => rfl
  | e :: es => by
    simp [itemPieces, argumentsOfItems, argumentsOf_pieces e, argumentsOf_itemPieces es]
end

end Expr

end SqlUpdate
