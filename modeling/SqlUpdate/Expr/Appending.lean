import SqlUpdate.Builder
import SqlUpdate.Expr.Rendering
/-!
# Writing an expression step by step

An expression is written in one walk over its tree. Each step of the walk changes the builder at
hand: it adds text, or the name of a column, or a value.

* `Builder.write`, `Builder.writeColumn`, `Builder.register` — the steps.
* `Builder.enclose` — steps between parentheses if those are needed.
* `Expr.appendTo` — the walk over an expression, and over the items of a list.
-/

namespace SqlUpdate

namespace Builder

/-- The builder with more text. -/
def write (b : Builder) (s : String) : Builder := { b with sql := b.sql ++ s }

/-- The builder with the name of a column behind the name of its table. -/
def writeColumn (b : Builder) (c : Column) : Builder := b.write (b.dialect.qualified c.table c.name)

/-- The builder with a value: a placeholder that binds it, or its literal. -/
def register (b : Builder) (a : Argument) : Builder :=
  match b.reading with
  | .prepared => { b with arguments := b.arguments ++ [a] }.write placeholder
  | .inlined => b.write a.value.literal

/-- The builder after steps, with parentheses around what they write if those are needed. -/
def enclose (b : Builder) (needed : Bool) (steps : Builder → Builder) : Builder :=
  if needed then (steps (b.write "(")).write ")" else steps b

/-- Text is a piece. -/
theorem write_eq_append (b : Builder) (s : String) : b.write s = b.append [.sql s] := by
  obtain ⟨d, r, sql, args⟩ := b
  cases r <;> simp [write, append, boundArguments, Piece.text]

/-- A fragment is written like text. -/
theorem write_eq_append_raw (b : Builder) (s : String) : b.write s = b.append [.raw s] := by
  obtain ⟨d, r, sql, args⟩ := b
  cases r <;> simp [write, append, boundArguments, Piece.text]

theorem writeColumn_eq_append (b : Builder) (c : Column) :
    b.writeColumn c = b.append (Piece.qualified c) := by
  obtain ⟨d, r, sql, args⟩ := b
  cases r <;> simp [writeColumn, write, append, boundArguments, textOf_qualified]

/-- Only a value that is not written as a literal is bound. -/
theorem register_eq_append (b : Builder) (a : Argument) :
    b.register a = b.append [.argument a] := by
  obtain ⟨d, r, sql, args⟩ := b
  cases r <;> simp [register, write, append, boundArguments, Piece.text]

/-- Steps that append pieces append them between parentheses. -/
theorem enclose_eq_append (b : Builder) (needed : Bool) {steps : Builder → Builder}
    {ps : List Piece} (h : ∀ b, steps b = b.append ps) :
    b.enclose needed steps = b.append (parenthesizedIf needed ps) := by
  cases needed with
  | false => exact h b
  | true =>
    show (steps (b.write "(")).write ")" = b.append (.sql "(" :: (ps ++ [.sql ")"]))
    rw [h, write_eq_append, write_eq_append, ← append_append, ← append_append]
    rfl

end Builder

namespace Expr

mutual
/-- The builder with the expression. -/
def appendTo : Expr → Builder → Builder
  | .column c, b => b.writeColumn c
  | .argument a, b => b.register a
  | .raw s, b => b.write s
  | .binary op e f, b =>
    let b := b.enclose (e.needsParens op) e.appendTo
    let b := ((b.write " ").write op.sql).write " "
    b.enclose (f.needsParens op) f.appendTo
  | .not e, b => (b.write "NOT ").enclose e.isBinary e.appendTo
  | .isNull negated e, b => (e.appendTo b).write (if negated then " IS NOT NULL" else " IS NULL")
  | .inList negated e items, b =>
    let b := (e.appendTo b).write (if negated then " NOT IN (" else " IN (")
    (appendItems items b).write ")"
  | .between negated e low high, b =>
    let b := (e.appendTo b).write (if negated then " NOT BETWEEN " else " BETWEEN ")
    high.appendTo ((low.appendTo b).write " AND ")
  | .paren e, b => (e.appendTo (b.write "(")).write ")"

/-- The builder with the items of a list and commas between them. -/
def appendItems : List Expr → Builder → Builder
  | [], b => b
  | [e], b => e.appendTo b
  | e :: f :: es, b => appendItems (f :: es) ((e.appendTo b).write ", ")
end

end Expr

end SqlUpdate
