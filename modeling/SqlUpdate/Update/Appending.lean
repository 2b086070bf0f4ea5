import SqlUpdate.Update.Compile
/-!
# Writing an UPDATE step by step

A statement is appended to a builder clause by clause. Each dialect makes its checks where it needs
their results. A check that fails stops the writing, and does not take back what was appended until
then.

* `Appending`, `Appending.outcome` — steps on a builder, and what becomes of it.
* `Appending.write`, `Appending.check`, `Appending.list` — append pieces, make a check, and append
  items with a separator between them.
* `Dialect.updateTable`, `Dialect.updateJoin` — an UPDATE of a table and of a join. The dialect that
  decides the form need not be the one that names are quoted for.
-/

namespace SqlUpdate

/-- Steps on a builder. They give a result or an error, and leave a builder in both cases. -/
abbrev Appending (α : Type) := ExceptT Error (StateM Builder) α

namespace Appending

/-- What the steps give, and what they leave of a builder. -/
def outcome {α : Type} (w : Appending α) (b : Builder) : Except Error α × Builder := w.run.run b

/-- Appends pieces. -/
def write (ps : List Piece) : Appending Unit := modify fun b => b.append ps

/-- Goes on with the result of a check, or stops with its error. -/
def check {α : Type} (x : Except Error α) : Appending α := ExceptT.mk (pure x)

/-- Appends items with a separator between them. -/
def list {α : Type} (separator : String) (item : α → Appending Unit) : List α → Appending Unit
  | [] => pure ()
  | [a] => item a
  | a :: b :: rest => do
    item a
    write [.sql separator]
    list separator item (b :: rest)

/-! ### Clauses -/

/-- The assignments behind `SET`. -/
def setClause (qualified : Bool) (as : List Assignment) : Appending Unit := do
  write [.sql " SET "]
  list ", " (fun a => do
    write (assignedName qualified a.column)
    write [.sql " = "]
    write a.valuePieces) as

/-- The condition on the rows behind `WHERE`, if there is one. -/
def whereClause : Option Expr → Appending Unit
  | none => pure ()
  | some e => do
    write [.sql " WHERE "]
    write e.pieces

/-- A condition that stands beside others. -/
def conjunct (e : Expr) : Appending Unit :=
  if e.isDisjunction then do
    write [.sql "("]
    write e.pieces
    write [.sql ")"]
  else write e.pieces

/-- The tables of a join other than the one that is updated behind `FROM`, if there are any. -/
def fromClause (t : Table) (j : Join) : Appending Unit :=
  match otherTables t j with
  | [] => pure ()
  | others => do
    write [.sql " FROM "]
    list ", " (fun u => write [.name u.name]) others

/-- The conditions of the parts of a join behind `WHERE`. Gives whether there were any. -/
def joinedClause (j : Join) : Appending Bool :=
  match j.parts.filter JoinPart.hasConditions with
  | [] => pure false
  | parts => do
    write [.sql " WHERE "]
    list " AND " (fun p => write p.conditionPieces) parts
    pure true

/-- The condition on the rows, behind those of a join if there were any. -/
def furtherClause (filtered : Bool) : Option Expr → Appending Unit
  | none => pure ()
  | some e =>
    if filtered then do
      write [.sql " AND "]
      conjunct e
    else whereClause (some e)

/-! ### Tables -/

/-- Refuses a limit that the dialect has no form for. -/
def allowLimit (d : Dialect) (limit : Option Nat) : Except Error Unit :=
  if limit.isSome && !d.supportsLimit then .error (.unsupported (.limit d)) else .ok ()

/-- The number of rows behind `LIMIT`. -/
def limitClause : Option Nat → Appending Unit
  | none => pure ()
  | some n => write [.sql " LIMIT ", numberPiece n]

/-- The condition on the rows behind `WHERE`, and how many of them may be met. -/
def rownumFilter : Option Expr → Option Nat → Appending Unit
  | some e, some n => do
    write [.sql " WHERE "]
    conjunct e
    write (.sql " AND " :: rownumPieces n)
  | filter, none => whereClause filter
  | none, some n => write (rownumClause (some n))

/-- An UPDATE of a table with the number of rows at its end, if the dialect can limit it. -/
def updatePlain (d : Dialect) (t : Table) (as : List Assignment) (limit : Option Nat)
    (filter : Option Expr) : Appending Unit := do
  check (allowLimit d limit)
  write [.sql "UPDATE "]
  write [.name t.name]
  setClause false as
  whereClause filter
  limitClause limit

/-- An UPDATE of a table with the number of rows behind `TOP`. -/
def updateTop (t : Table) (as : List Assignment) (limit : Option Nat) (filter : Option Expr) :
    Appending Unit := do
  write [.sql "UPDATE "]
  write (topPieces limit)
  write [.name t.name]
  setClause false as
  whereClause filter

/-- An UPDATE of a table with the number of rows as a condition. -/
def updateNumbered (t : Table) (as : List Assignment) (limit : Option Nat) (filter : Option Expr) :
    Appending Unit := do
  write [.sql "UPDATE "]
  write [.name t.name]
  setClause false as
  rownumFilter filter limit

/-! ### Joins -/

/-- An UPDATE of all tables of a join. -/
def updateTables (d : Dialect) (j : Join) (as : List Assignment) (limit : Option Nat)
    (filter : Option Expr) : Appending Unit := do
  check (refuseLimit (.limitOfTables d) limit)
  check (requireJoined j as)
  write [.sql "UPDATE "]
  write j.pieces
  setClause true as
  whereClause filter

/-- An UPDATE of one table of a join, with the other ones behind `FROM`. -/
def updateFrom (d : Dialect) (qualified : Bool) (top : Option Nat) (j : Join)
    (as : List Assignment) (filter : Option Expr) : Appending Unit := do
  let t ← check (updatedTable d j as)
  write [.sql "UPDATE "]
  write (topPieces top)
  write [.name t.name]
  setClause qualified as
  fromClause t j
  let filtered ← joinedClause j
  furtherClause filtered filter

/-- A merge of one table of a join into the other. -/
def mergeJoin (d : Dialect) (j : Join) (as : List Assignment) (limit : Option Nat)
    (filter : Option Expr) : Appending Unit := do
  check (refuseLimit (.limitOfJoin d) limit)
  let t ← check (updatedTable d j as)
  match j.parts with
  | [part] => do
    write [.sql "MERGE INTO "]
    write [.name t.name]
    write [.sql " USING "]
    write [.name (mergeSource t j part).name]
    write [.sql " ON "]
    write (mergeConditions part)
    write [.sql " WHEN MATCHED THEN UPDATE"]
    setClause true as
    whereClause filter
  | _ => check (.error (.unsupported (.severalParts d)))

/-- The numbers that the columns of a query are called by, counted on from a number: one for each
assigned column, and one for its value if that is an expression. The first expression that binds
arguments stops the count. -/
def columnNumbers (d : Dialect) (next : Nat) : List Assignment → Appending (List (Nat × Option Nat))
  | [] => pure []
  | a :: as =>
    match a.assigned with
    | .value _ => do
      let rest ← columnNumbers d (next + 1) as
      pure ((next, none) :: rest)
    | .expr e =>
      if 0 < e.argumentCount then check (.error (.unsupported (.argumentInView d a.column)))
      else do
        let rest ← columnNumbers d (next + 2) as
        pure ((next, some (next + 1)) :: rest)

/-- The columns of a query that an assignment takes. -/
def selected (c : Assignment × Nat × Option Nat) : Appending Unit := do
  write (Piece.qualified c.1.column)
  write [.sql " ", aliasPiece c.2.1]
  match c.1.assigned, c.2.2 with
  | .expr e, some n => do
    write [.sql ", "]
    write e.pieces
    write [.sql " ", aliasPiece n]
  | _, _ => pure ()

/-- An assignment to a column of a query. -/
def settled (c : Assignment × Nat × Option Nat) : Appending Unit := do
  write [.sql "x.", aliasPiece c.2.1, .sql " = "]
  match c.2.2 with
  | some n => write [.sql "x.", aliasPiece n]
  | none => write c.1.valuePieces

/-- An UPDATE of a query over a join. -/
def updateView (d : Dialect) (j : Join) (as : List Assignment) (limit : Option Nat)
    (filter : Option Expr) : Appending Unit := do
  let _ ← check (updatedTable d j as)
  let numbers ← columnNumbers d 0 as
  write [.sql "UPDATE (SELECT "]
  list ", " selected (as.zip numbers)
  write [.sql " FROM "]
  write j.pieces
  whereClause filter
  write [.sql ") x SET "]
  list ", " settled (as.zip numbers)
  write (rownumClause limit)

end Appending

open Appending

/-! ### Dialects -/

/-- An UPDATE of a table, as a dialect writes it. -/
def Dialect.updateTable (d : Dialect) (t : Table) (as : List Assignment) (limit : Option Nat)
    (filter : Option Expr) : Appending Unit :=
  match d with
  | .sqlserver => updateTop t as limit filter
  | .oracle => updateNumbered t as limit filter
  | d => updatePlain d t as limit filter

/-- An UPDATE of a join, as a dialect writes it. -/
def Dialect.updateJoin (d : Dialect) (j : Join) (as : List Assignment) (limit : Option Nat)
    (filter : Option Expr) : Appending Unit :=
  match d with
  | .generic => check (.error (.unsupported (.join d)))
  | .mysql | .mariadb => updateTables d j as limit filter
  | .postgresql | .sqlite => do
    check (refuseLimit (.limit d) limit)
    updateFrom d false none j as filter
  | .sqlserver => updateFrom d true limit j as filter
  | .h2 => mergeJoin d j as limit filter
  | .oracle => updateView d j as limit filter

end SqlUpdate
