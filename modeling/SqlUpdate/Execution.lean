import SqlUpdate.Update.Compile
/-!
# Executing an UPDATE

A database is asked one thing at a time, and its answer may depend on everything it was asked
before. A session remembers what it was asked and what was reported.

* `Executor`, `Session`, `Call` — the database, what happened so far, and what it is asked.
* `Session.prepare`, `Session.run`, `Session.execute` — compiles a statement, executes a compiled
  one, and does both. A statement that assigns nothing is never sent to the database.
-/

namespace SqlUpdate

/-- What a database is asked: to execute a text with arguments. -/
structure Call where
  /-- The text with placeholders. -/
  sql : String
  /-- The values for the placeholders. -/
  arguments : List Argument
  deriving DecidableEq, Repr, Inhabited

/-- A database: its answer to a call after the calls made before, the last one first. The answer is
a number of rows, or a failure. -/
structure Executor (ε : Type) where
  /-- The answer. -/
  answer : List Call → Call → Except ε Nat

/-- What happened so far. -/
structure Session where
  /-- What the database was asked, the last call first. -/
  calls : List Call
  /-- What was reported, in order. -/
  log : List Event
  deriving DecidableEq, Repr, Inhabited

/-- Why a statement was not executed. -/
inductive Failure (ε : Type) where
  /-- It cannot be compiled. -/
  | statement (e : Error)
  /-- The database failed. -/
  | driver (e : ε)
  deriving DecidableEq, Repr

namespace Session

/-- Nothing has happened. -/
def start : Session := ⟨[], []⟩

/-- Reports events. -/
def report (s : Session) (es : List Event) : Session := { s with log := s.log ++ es }

/-- Compiles a statement and reports it. -/
def prepare (ctx : Context) (u : Update) (s : Session) : Except Error Prepared × Session :=
  match u.render ctx with
  | .error e => (.error e, s)
  | .ok r => (u.prepare ctx, s.report (r.events .prepared))

/-- Compiles a statement with literals and reports it. -/
def inline (ctx : Context) (u : Update) (s : Session) : Except Error String × Session :=
  match u.render ctx with
  | .error e => (.error e, s)
  | .ok r => (u.inline ctx, s.report (r.events .inlined))

variable {ε : Type}

/-- Executes a compiled statement. -/
def run (x : Executor ε) (p : Prepared) (s : Session) : Except (Failure ε) Nat × Session :=
  let s := s.report [.executing p.context p.sql p.argumentList.length]
  let call : Call := ⟨p.sql, p.argumentList⟩
  ((x.answer s.calls call).mapError .driver, { s with calls := call :: s.calls })

/-- Compiles a statement and executes it. -/
def execute (x : Executor ε) (ctx : Context) (u : Update) (s : Session) :
    Except (Failure ε) Nat × Session :=
  if u.assignments.isEmpty then (.ok 0, s.report [.nothingAssigned])
  else
    match s.prepare ctx u with
    | (.ok p, s) => s.run x p
    | (.error e, s) => (.error (.statement e), s)

end Session

end SqlUpdate
