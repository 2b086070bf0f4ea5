import SqlUpdate.Dialect.Identifier
import SqlUpdate.Value.Literal
import SqlUpdate.Schema.Table
/-!
# SQL in pieces

Rendering gives a list of pieces that still says which of its text is fixed, which is a name and
which stands for a value. One list can be read in two ways: with a placeholder for every argument,
and with the literals of the arguments in their places.

* `Piece`, `Reading` — a piece, and the two ways of reading it.
* `Piece.text`, `textOf` — the text of a piece, and of a list of them, in a dialect.
* `argumentsOf` — the arguments that a list of pieces binds.
* `separated` — lists of pieces with a separator between them.
-/

namespace SqlUpdate

/-- A piece of SQL. -/
inductive Piece where
  /-- Text of the statement itself. -/
  | sql (s : String)
  /-- A name. -/
  | name (s : String)
  /-- A fragment that is written as it is. -/
  | raw (s : String)
  /-- A value that is bound. -/
  | argument (a : Argument)
  /-- A value that is written as a literal. -/
  | literal (v : Value)
  deriving DecidableEq, Repr, Inhabited

/-- How arguments are written. -/
inductive Reading where
  /-- As placeholders. -/
  | prepared
  /-- As literals. -/
  | inlined
  deriving DecidableEq, Repr, Inhabited

/-- The placeholder of an argument. -/
def placeholder : String := "?"

namespace Piece

/-- The text of a piece. -/
def text (d : Dialect) (r : Reading) : Piece → String
  | .sql s | .raw s => s
  | .name s => d.identifier s
  | .argument a =>
    match r with
    | .prepared => placeholder
    | .inlined => a.value.literal
  | .literal v => v.literal

/-- The argument of a piece. -/
def argument? : Piece → Option Argument
  | .argument a => some a
  | _ => none

/-- The piece with a literal in place of an argument. -/
def inlined : Piece → Piece
  | .argument a => .literal a.value
  | p => p

/-- Without placeholders the two readings agree. -/
theorem text_inlined (d : Dialect) (r : Reading) (p : Piece) :
    p.inlined.text d r = p.text d .inlined := by
  cases p <;> rfl

/-- Nothing is bound once every argument is a literal. -/
theorem argument?_inlined (p : Piece) : p.inlined.argument? = none := by
  cases p <;> rfl

/-- The name of a column behind the name of its table. -/
def qualified (c : Column) : List Piece := [.name c.table, .sql ".", .name c.name]

end Piece

/-! ### Lists of pieces -/

/-- The text of a list of pieces. -/
def textOf (d : Dialect) (r : Reading) (ps : List Piece) : String :=
  String.join (ps.map (Piece.text d r))

/-- The arguments that a list of pieces binds, in the order of their placeholders. -/
def argumentsOf (ps : List Piece) : List Argument := ps.filterMap Piece.argument?

@[simp] theorem textOf_nil (d : Dialect) (r : Reading) : textOf d r [] = "" := rfl

@[simp] theorem textOf_cons (d : Dialect) (r : Reading) (p : Piece) (ps : List Piece) :
    textOf d r (p :: ps) = p.text d r ++ textOf d r ps := by
  simp [textOf]

@[simp] theorem argumentsOf_nil : argumentsOf [] = [] := rfl

@[simp] theorem argumentsOf_sql (s : String) (ps : List Piece) :
    argumentsOf (.sql s :: ps) = argumentsOf ps := rfl

@[simp] theorem argumentsOf_name (s : String) (ps : List Piece) :
    argumentsOf (.name s :: ps) = argumentsOf ps := rfl

@[simp] theorem argumentsOf_raw (s : String) (ps : List Piece) :
    argumentsOf (.raw s :: ps) = argumentsOf ps := rfl

@[simp] theorem argumentsOf_literal (v : Value) (ps : List Piece) :
    argumentsOf (.literal v :: ps) = argumentsOf ps := rfl

@[simp] theorem argumentsOf_argument (a : Argument) (ps : List Piece) :
    argumentsOf (.argument a :: ps) = a :: argumentsOf ps := rfl

/-- The text of two lists, one after the other. -/
@[simp] theorem textOf_append (d : Dialect) (r : Reading) (ps qs : List Piece) :
    textOf d r (ps ++ qs) = textOf d r ps ++ textOf d r qs := by
  simp [textOf]

/-- The arguments of two lists, one after the other. -/
@[simp] theorem argumentsOf_append (ps qs : List Piece) :
    argumentsOf (ps ++ qs) = argumentsOf ps ++ argumentsOf qs := by
  simp [argumentsOf]

/-- The name of a column in its table is its qualified name. -/
theorem textOf_qualified (d : Dialect) (r : Reading) (c : Column) :
    textOf d r (Piece.qualified c) = d.qualified c.table c.name := by
  simp [Piece.qualified, Piece.text, Dialect.qualified, String.append_assoc]

/-- The name of a column binds nothing. -/
@[simp] theorem argumentsOf_qualified (c : Column) : argumentsOf (Piece.qualified c) = [] := rfl

/-- Lists of pieces with a separator between them. -/
def separated (separator : String) : List (List Piece) → List Piece
  | [] => []
  | [ps] => ps
  | ps :: qs :: rest => ps ++ .sql separator :: separated separator (qs :: rest)

theorem separated_append (separator : String) {pss qss : List (List Piece)} (hpss : pss ≠ [])
    (hqss : qss ≠ []) : separated separator (pss ++ qss)
      = separated separator pss ++ .sql separator :: separated separator qss := by
  induction pss with
  | nil => exact absurd rfl hpss
  | cons ps pss ih =>
    cases pss with
    | nil =>
      obtain ⟨qs, qss, rfl⟩ := List.exists_cons_of_ne_nil hqss
      rfl
    | cons rs pss =>
      have hrest := ih (List.cons_ne_nil rs pss)
      show ps ++ .sql separator :: separated separator (rs :: pss ++ qss) = _
      rw [hrest]
      show _ = (ps ++ .sql separator :: separated separator (rs :: pss)) ++ _
      rw [List.append_assoc]
      rfl

end SqlUpdate
