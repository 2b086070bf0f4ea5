import SqlUpdate.Schema.Target
import SqlUpdate.Schema.Rendering
/-!
# UPDATE statements

* `Assignment` — a column and what it is set to.
* `Update` — a relation, the assignments in the order in which columns were first assigned, the
  condition on the rows, and how many rows are updated at most.
* `Update.assign`, `Update.filterBy`, `Update.alsoFilterBy`, `Update.limitTo` — how a statement is
  put together.
* `Step`, `Update.apply` — the same as data, so that whole runs can be spoken of.
-/

namespace SqlUpdate

/-- What a column is set to. -/
inductive Assigned where
  /-- A value, bound with the type of the column. -/
  | value (v : Value)
  /-- The value of an expression. -/
  | expr (e : Expr)
  deriving Inhabited

/-- A column and what it is set to. -/
structure Assignment where
  /-- The column. -/
  column : Column
  /-- What it is set to. -/
  assigned : Assigned
  deriving Inhabited

namespace Assignment

/-- What the column is set to, as pieces. -/
def valuePieces (a : Assignment) : List Piece :=
  match a.assigned with
  | .value v => [.argument ⟨a.column.type, v⟩]
  | .expr e => e.pieces

/-- The arguments in what the column is set to. -/
def arguments (a : Assignment) : List Argument :=
  match a.assigned with
  | .value v => [⟨a.column.type, v⟩]
  | .expr e => e.arguments

end Assignment

/-- Assigns to a column: a new column goes to the end, and a column that is assigned already keeps
its place. -/
def reassign (c : Column) (v : Assigned) : List Assignment → List Assignment
  | [] => [⟨c, v⟩]
  | a :: as =>
    if a.column.key = c.key then ⟨c, v⟩ :: as else a :: reassign c v as

/-- The columns after an assignment: a new one follows those before. -/
theorem keys_reassign (c : Column) (v : Assigned) (as : List Assignment) :
    (reassign c v as).map (fun a => a.column.key) =
      if c.key ∈ as.map (fun a => a.column.key) then as.map fun a => a.column.key
      else as.map (fun a => a.column.key) ++ [c.key] := by
  induction as with
  | nil => rfl
  | cons a as ih =>
    by_cases h : a.column.key = c.key
    · simp [reassign, h]
    · rw [reassign, if_neg h, List.map_cons, List.map_cons, ih]
      by_cases hc : c.key ∈ as.map fun a => a.column.key
      · rw [if_pos hc, if_pos (List.mem_cons_of_mem _ hc)]
      · rw [if_neg hc, if_neg (List.not_mem_cons_of_ne_of_not_mem (Ne.symm h) hc)]; rfl

/-- An UPDATE statement. -/
structure Update where
  /-- What is updated. -/
  target : Target
  /-- The columns and what they are set to. -/
  assignments : List Assignment
  /-- The condition on the rows. -/
  filter : Option Expr
  /-- How many rows are updated at most. -/
  limit : Option Nat
  deriving Inhabited

namespace Update

/-- A statement that assigns nothing. -/
def of (t : Target) : Update := ⟨t, [], none, none⟩

/-- Assigns to a column. -/
def assign (u : Update) (c : Column) (v : Assigned) : Update :=
  { u with assignments := reassign c v u.assignments }

/-- Sets a column to a value. -/
def set (u : Update) (c : Column) (v : Value) : Update := u.assign c (.value v)

/-- Sets a column to the value of an expression. -/
def setExpr (u : Update) (c : Column) (e : Expr) : Update := u.assign c (.expr e)

/-- Replaces the condition on the rows. -/
def filterBy (u : Update) (e : Expr) : Update := { u with filter := some e }

/-- Adds to the condition on the rows. -/
def alsoFilterBy (u : Update) (e : Expr) : Update :=
  { u with filter := some (match u.filter with
    | some f => f.and e
    | none => e) }

/-- Limits the number of rows. -/
def limitTo (u : Update) (n : Nat) : Update := { u with limit := some n }

end Update

/-- A step in putting a statement together. -/
inductive Step where
  /-- Assign to a column. -/
  | assign (c : Column) (v : Assigned)
  /-- Replace the condition on the rows. -/
  | filterBy (e : Expr)
  /-- Add to the condition on the rows. -/
  | alsoFilterBy (e : Expr)
  /-- Limit the number of rows. -/
  | limitTo (n : Nat)
  deriving Inhabited

/-- The statement after one more step. -/
def Update.apply (u : Update) : Step → Update
  | .assign c v => u.assign c v
  | .filterBy e => u.filterBy e
  | .alsoFilterBy e => u.alsoFilterBy e
  | .limitTo n => u.limitTo n

/-- The statement after several steps. -/
def Update.applyAll (u : Update) (steps : List Step) : Update := steps.foldl Update.apply u

end SqlUpdate
