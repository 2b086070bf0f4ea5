import SqlUpdate.Piece
/-!
# Accumulating a statement

* `Builder` — a text and the arguments bound so far, for one dialect and one way of reading.
* `Builder.append` — adds pieces behind what is there already. Placeholders bind their arguments;
  literals bind nothing.
-/

namespace SqlUpdate

/-- A statement that is being written. -/
structure Builder where
  /-- The dialect of names. -/
  dialect : Dialect
  /-- How arguments are written. -/
  reading : Reading
  /-- The text so far. -/
  sql : String
  /-- The arguments so far. -/
  arguments : List Argument
  deriving DecidableEq, Repr, Inhabited

/-- The arguments that pieces bind under a reading. -/
def boundArguments : Reading → List Piece → List Argument
  | .prepared, ps => argumentsOf ps
  | .inlined, _ => []

namespace Builder

/-- A builder that has written nothing. -/
def empty (d : Dialect) (r : Reading) : Builder := ⟨d, r, "", []⟩

/-- The builder with more pieces. -/
def append (b : Builder) (ps : List Piece) : Builder :=
  { b with
    sql := b.sql ++ textOf b.dialect b.reading ps
    arguments := b.arguments ++ boundArguments b.reading ps }

/-- The builder without further pieces. -/
theorem append_nil (b : Builder) : b.append [] = b := by
  obtain ⟨d, r, sql, args⟩ := b
  cases r <;> simp [append, boundArguments]

/-- Appending two lists is appending the one and then the other. -/
theorem append_append (b : Builder) (ps qs : List Piece) :
    b.append (ps ++ qs) = (b.append ps).append qs := by
  obtain ⟨d, r, sql, args⟩ := b
  cases r <;>
    simp [append, boundArguments, textOf_append, argumentsOf_append, String.append_assoc]

end Builder

end SqlUpdate
