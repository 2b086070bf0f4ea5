import SqlUpdate.Expr.Appending
import SqlUpdate.Update.Appending
/-!
# Writing an expression only adds to what is written

The walk over an expression neither reads nor changes what is written already, so that the text and
the arguments of an expression are the same wherever it stands.

* `appendTo_eq_append` — the walk appends the pieces of the expression.
* `write_pieces_eq_modify` — the clauses of a statement write their expressions by this walk.
* `expression_onlyAppends` — what the walk adds to the text and to the arguments.
-/

namespace SqlUpdate

open Builder

mutual
/-- The walk over an expression appends its pieces. This is said of every builder, since each part
of an expression is written behind the parts before it. -/
theorem appendTo_eq_append : (e : Expr) → (b : Builder) → e.appendTo b = b.append e.pieces
  | .column c, b => b.writeColumn_eq_append c
  | .argument a, b => b.register_eq_append a
  | .raw s, b => b.write_eq_append_raw s
  | .binary op e f, b => by
    rw [Expr.appendTo, enclose_eq_append _ _ (appendTo_eq_append e),
      enclose_eq_append _ _ (appendTo_eq_append f)]
    simp only [write_eq_append, ← append_append, Expr.pieces, List.append_assoc, List.cons_append,
      List.nil_append]
  | .not e, b => by
    rw [Expr.appendTo, enclose_eq_append _ _ (appendTo_eq_append e), write_eq_append,
      ← append_append, Expr.pieces]
    rfl
  | .isNull negated e, b => by
    rw [Expr.appendTo, appendTo_eq_append e, write_eq_append, ← append_append, Expr.pieces]
  | .inList negated e items, b => by
    rw [Expr.appendTo, appendTo_eq_append e, appendItems_eq_append items]
    simp only [write_eq_append, ← append_append, Expr.pieces]
  | .between negated e low high, b => by
    rw [Expr.appendTo, appendTo_eq_append e, appendTo_eq_append low, appendTo_eq_append high]
    simp only [write_eq_append, ← append_append, Expr.pieces]
  | .paren e, b => b.enclose_eq_append true (appendTo_eq_append e)

/-- The walk over the items of a list appends their pieces with commas between them. -/
theorem appendItems_eq_append : (es : List Expr) → (b : Builder) →
    Expr.appendItems es b = b.append (separated ", " (Expr.itemPieces es))
  | [], b => b.append_nil.symm
  | [e], b => appendTo_eq_append e b
  | e :: f :: es, b => by
    rw [Expr.appendItems, appendItems_eq_append (f :: es), appendTo_eq_append e, write_eq_append,
      ← append_append, ← append_append]
    simp [Expr.itemPieces, separated]
end

/-- The clauses of a statement write an expression as the walk does. -/
theorem write_pieces_eq_modify (e : Expr) : Appending.write e.pieces = modify e.appendTo := by
  have hwalk : e.appendTo = fun b => b.append e.pieces := funext (appendTo_eq_append e)
  rw [Appending.write, hwalk]

/-- **Writing an expression only adds to what is written.** Whatever a builder holds, the walk over
an expression keeps it and adds a text, which the expression, the dialect and the reading decide.
If values are bound, it adds the arguments of the expression from left to right, which are as many
as are counted and the same in every dialect; if they are written as literals, it adds none. -/
theorem expression_onlyAppends (e : Expr) (b : Builder) :
    e.appendTo b = { b with
      sql := b.sql ++ textOf b.dialect b.reading e.pieces
      arguments := b.arguments ++ match b.reading with
        | .prepared => e.arguments
        | .inlined => [] } ∧
    e.arguments.length = e.argumentCount := by
  refine ⟨?_, e.length_arguments⟩
  rw [appendTo_eq_append, append]
  cases b.reading with
  | prepared => rw [boundArguments, Expr.argumentsOf_pieces]
  | inlined => rfl

/-- A sum inside a product takes parentheses, and items take commas, behind what is there already. -/
example :
    let a (name : String) := Expr.column ⟨"t", name, .integer⟩
    let n (i : Int64) := Argument.mk .integer (.int i)
    let e := Expr.inList true (.binary .mul (.binary .add (a "x") (.argument (n 1))) (a "y"))
      [.argument (n 2), .raw "z", .argument (n 3)]
    e.appendTo ⟨.mysql, .prepared, "? = ", [n 0]⟩ =
      ⟨.mysql, .prepared, "? = (t.x + ?) * t.y NOT IN (?, z, ?)", [n 0, n 1, n 2, n 3]⟩ := rfl

end SqlUpdate
