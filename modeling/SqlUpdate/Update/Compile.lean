import SqlUpdate.Update.Writing
import SqlUpdate.Builder
import SqlUpdate.Event
/-!
# Compiling an UPDATE

* `Update.render` — the statement as pieces, in the dialect of a context.
* `Update.compile`, `Update.inline` — its text, with placeholders or with literals.
* `Update.arguments` — the values for the placeholders, as a list of batches. It is found without
  writing the statement: first the assigned values and then those of the condition, or the other
  way round where the condition is written in front.
* `Update.prepare` — text and arguments together. `Update.prepareChecked` also makes the assertion
  on the arguments that builds for debugging make.
* `Builder.update` — appends a statement to what is written already, or leaves that as it was.
-/

namespace SqlUpdate

/-- A statement that was written. -/
structure Rendered where
  /-- The dialect that it is written in. -/
  dialect : Dialect
  /-- The statement. -/
  pieces : List Piece
  /-- What there was to report about its form. -/
  warnings : List Event
  deriving Inhabited

namespace Rendered

/-- The text of the statement. -/
def text (s : Rendered) (r : Reading) : String := textOf s.dialect r s.pieces

/-- What there is to report when the statement is written. -/
def events (s : Rendered) (r : Reading) : List Event :=
  s.warnings ++ [.compiled s.dialect (s.text r)]

/-- The builder that a statement was written into with placeholders. -/
def written (s : Rendered) : Builder := (Builder.empty s.dialect .prepared).append s.pieces

end Rendered

/-- What there is to report about a form: a merge always joins the rows that match. -/
def Form.warnings : Form → List Event
  | .merge _ _ part => if part.kind = .inner then [] else [.joinedInner part.kind]
  | _ => []

/-- The form of a statement on a relation. -/
def planTarget (d : Dialect) (t : Target) (as : List Assignment) (limit : Option Nat) :
    Except Error Form :=
  match t with
  | .table t => planTable d t limit
  | .join j => planJoin d j as limit
  | t => .error (.unsupported (.target t.kind))

/-- The dialect that statements on a relation are written in. -/
def Context.dialectOf (ctx : Context) : Target → Dialect
  | .join _ => ctx.joinDialect
  | _ => ctx.tableDialect

namespace Update

/-- The statement in the dialect of a context. -/
def render (ctx : Context) (u : Update) : Except Error Rendered :=
  if u.assignments.isEmpty then .error .emptyAssignments
  else do
    let d := ctx.dialectOf u.target
    let form ← planTarget d u.target u.assignments u.limit
    .ok ⟨d, Plan.pieces ⟨form, u.assignments, u.filter⟩, form.warnings⟩

/-- The text of the statement with placeholders. -/
def compile (ctx : Context) (u : Update) : Except Error String :=
  (u.render ctx).map fun s => s.text .prepared

/-- The text of the statement with literals. -/
def inline (ctx : Context) (u : Update) : Except Error String :=
  (u.render ctx).map fun s => s.text .inlined

/-- The values of the assignments. -/
def assignedArguments (u : Update) : List Argument := u.assignments.flatMap Assignment.arguments

/-- The values of the condition. -/
def filterArguments (u : Update) : List Argument := (u.filter.map Expr.arguments).getD []

/-- Whether the condition is written in front of the assignments. -/
def filterFirst (ctx : Context) (u : Update) : Bool :=
  match u.target with
  | .join _ => ctx.isOracle
  | _ => false

/-- The values for the placeholders, in order. -/
def argumentList (ctx : Context) (u : Update) : List Argument :=
  if u.filterFirst ctx then u.filterArguments ++ u.assignedArguments
  else u.assignedArguments ++ u.filterArguments

/-- The values for the placeholders in one batch, or no batch if there are none. -/
def arguments (ctx : Context) (u : Update) : List (List Argument) :=
  match u.argumentList ctx with
  | [] => []
  | as => [as]

end Update

/-- A compiled statement, ready to be executed. -/
structure Prepared where
  /-- The text with placeholders. -/
  sql : String
  /-- The batches of arguments. -/
  arguments : List (List Argument)
  /-- What the statement was compiled for. -/
  context : Context
  deriving DecidableEq, Repr, Inhabited

/-- The arguments of the only batch, or none. -/
def Prepared.argumentList (p : Prepared) : List Argument := (p.arguments.head?).getD []

/-- Text and arguments of the statement. The assertion on the arguments that only builds for debugging
make here is left out; `Update.prepareChecked` makes it. -/
def Update.prepare (ctx : Context) (u : Update) : Except Error Prepared :=
  (u.compile ctx).map fun sql => ⟨sql, u.arguments ctx, ctx⟩

/-- Why a statement cannot be prepared in a build for debugging. -/
inductive PrepareFailure where
  /-- The statement cannot be compiled. -/
  | refused (e : Error)
  /-- The assertion fails: the arguments do not compare equal with those that were bound while this
  text was written. -/
  | misaligned (sql : String)
  deriving DecidableEq, Repr

/-- The wording of a failure. -/
def PrepareFailure.message : PrepareFailure → String
  | refused e => e.message
  | misaligned sql => "arguments out of placeholder order for " ++ sql

/-- Appends a statement on a relation to a builder, whose dialect it is written in. A statement that
the dialect cannot express leaves the builder as it was. -/
def Builder.update (b : Builder) (t : Target) (as : List Assignment) (limit : Option Nat)
    (filter : Option Expr) : Except Error Unit × Builder :=
  match planTarget b.dialect t as limit with
  | .ok form => (.ok (), b.append (Plan.pieces ⟨form, as, filter⟩))
  | .error e => (.error e, b)

end SqlUpdate
