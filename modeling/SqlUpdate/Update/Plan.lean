import SqlUpdate.Update.Basic
/-!
# Which form an UPDATE takes

Dialects differ in how an UPDATE limits its rows and in how it updates a join. Before anything is
written it is decided whether a dialect can express a statement, and in which form.

* `Dialect.limitStyle?`, `Dialect.joinStyle` — what each dialect offers.
* `Form` — the forms that an UPDATE can take.
* `planTable`, `planJoin` — the form of a statement on a table or on a join, or the reason why
  there is none. Of several reasons the first one is given.
-/

namespace SqlUpdate

/-! ### What dialects offer -/

/-- How the number of rows of an UPDATE is limited. -/
inductive LimitStyle where
  /-- By `LIMIT` at the end. -/
  | suffix
  /-- By `TOP` behind `UPDATE`. -/
  | top
  /-- By a condition on `ROWNUM`. -/
  | rownum
  deriving DecidableEq, Repr, Inhabited

/-- How an UPDATE of a join is written. -/
inductive JoinStyle where
  /-- Not at all. -/
  | unsupported
  /-- With the join behind `UPDATE`. -/
  | list
  /-- With the other tables behind `FROM`; the assigned columns are qualified or not, and `TOP` is
  known or not. -/
  | from (qualified top : Bool)
  /-- As a `MERGE`. -/
  | merge
  /-- As an UPDATE of a query. -/
  | view
  deriving DecidableEq, Repr, Inhabited

namespace Dialect

/-- How the dialect limits the rows of an UPDATE of a table, if it can. -/
def limitStyle? : Dialect → Option LimitStyle
  | generic | h2 | mysql | mariadb => some .suffix
  | postgresql | sqlite => none
  | sqlserver => some .top
  | oracle => some .rownum

/-- Whether the dialect can limit the rows of an UPDATE of a table. -/
def supportsLimit (d : Dialect) : Bool := d.limitStyle?.isSome

/-- How the dialect writes an UPDATE of a join. -/
def joinStyle : Dialect → JoinStyle
  | generic => .unsupported
  | mysql | mariadb => .list
  | postgresql | sqlite => .from false false
  | sqlserver => .from true true
  | h2 => .merge
  | oracle => .view

end Dialect

/-! ### Forms -/

/-- The form of an UPDATE. -/
inductive Form where
  /-- An UPDATE of a table, with the number of rows in one of the styles. -/
  | table (t : Table) (limit : Option (LimitStyle × Nat))
  /-- An UPDATE of all tables of a join. -/
  | list (j : Join)
  /-- An UPDATE of one table of a join, with the other ones behind `FROM`. -/
  | from (t : Table) (j : Join) (qualified : Bool) (top : Option Nat)
  /-- A merge of one table into another. -/
  | merge (t source : Table) (part : JoinPart)
  /-- An UPDATE of a query over a join. -/
  | view (j : Join) (limit : Option Nat)
  deriving Inhabited

/-- A statement whose form is decided. -/
structure Plan where
  /-- Its form. -/
  form : Form
  /-- The columns and what they are set to. -/
  assignments : List Assignment
  /-- The condition on the rows. -/
  filter : Option Expr
  deriving Inhabited

/-! ### Decisions -/

/-- The form of a statement on a table. -/
def planTable (d : Dialect) (t : Table) (limit : Option Nat) : Except Error Form :=
  match limit with
  | none => .ok (.table t none)
  | some n =>
    match d.limitStyle? with
    | some style => .ok (.table t (some (style, n)))
    | none => .error (.unsupported (.limit d))

/-- Refuses a limit. -/
def refuseLimit (cause : Unsupported) (limit : Option Nat) : Except Error Unit :=
  if limit.isSome then .error (.unsupported cause) else .ok ()

/-- The first assigned column that belongs to no table of a join. -/
def foreignColumn? (j : Join) (as : List Assignment) : Option Column :=
  (as.map Assignment.column).find? fun c => (j.table? c.table).isNone

/-- Refuses an assigned column that belongs to no table of a join. -/
def requireJoined (j : Join) (as : List Assignment) : Except Error Unit :=
  match foreignColumn? j as with
  | some c => .error (.invalidArgument (.notInJoin c))
  | none => .ok ()

/-- The table that all assigned columns belong to. -/
def commonTable? (j : Join) : List Assignment → Option Table
  | [] => none
  | a :: as =>
    if as.all fun b => b.column.table = a.column.table then j.table? a.column.table else none

/-- The table of a join that a statement updates, if its assigned columns belong to one table. -/
def updatedTable (d : Dialect) (j : Join) (as : List Assignment) : Except Error Table := do
  requireJoined j as
  match commonTable? j as with
  | some t => .ok t
  | none => .error (.invalidArgument (.severalTables d))

/-- The first assigned column whose value is an expression that binds arguments. -/
def boundExpression? (as : List Assignment) : Option Column :=
  as.findSome? fun a =>
    match a.assigned with
    | .expr e => if 0 < e.argumentCount then some a.column else none
    | .value _ => none

/-- The table that is merged into another: the leading one, unless that is the other. -/
def mergeSource (t : Table) (j : Join) (part : JoinPart) : Table :=
  if j.lead.name = t.name then part.table else j.lead

/-- The form of a statement on a join. -/
def planJoin (d : Dialect) (j : Join) (as : List Assignment) (limit : Option Nat) :
    Except Error Form :=
  match d.joinStyle with
  | .unsupported => .error (.unsupported (.join d))
  | .list => do
    refuseLimit (.limitOfTables d) limit
    requireJoined j as
    .ok (.list j)
  | .from qualified top => do
    if !top then refuseLimit (.limit d) limit
    let t ← updatedTable d j as
    .ok (.from t j qualified limit)
  | .merge => do
    refuseLimit (.limitOfJoin d) limit
    let t ← updatedTable d j as
    match j.parts with
    | [part] => .ok (.merge t (mergeSource t j part) part)
    | _ => .error (.unsupported (.severalParts d))
  | .view => do
    let _ ← updatedTable d j as
    match boundExpression? as with
    | some c => .error (.unsupported (.argumentInView d c))
    | none => .ok (.view j limit)

end SqlUpdate
