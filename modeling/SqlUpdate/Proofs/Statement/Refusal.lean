import SqlUpdate.Update.Appending
/-!
# A refused statement leaves no trace

Writing a statement step by step appends what was planned, or nothing at all: every check stands in
front of the first step that appends.

* `Idle`, `Appends` — steps that only make checks, and steps that append pieces whatever was
  written before.
* `Performs` — steps that append all pieces, or give an error and append none.
* `performs_updateTable`, `performs_updateJoin` — what each dialect appends is the form that was
  decided for the statement.
* `refused_untouched` — a statement that is refused leaves the builder as it was.
-/

namespace SqlUpdate

open Appending

/-! ### Steps -/

/-- The steps give a result or an error, and append nothing. -/
def Idle {α : Type} (w : Appending α) (x : Except Error α) : Prop := ∀ b, w.outcome b = (x, b)

/-- The steps give a result and append pieces. -/
def Appends {α : Type} (w : Appending α) (a : α) (ps : List Piece) : Prop :=
  ∀ b, w.outcome b = (.ok a, b.append ps)

/-- The steps append all pieces, or give an error and append none. -/
def Performs (w : Appending Unit) (x : Except Error (List Piece)) : Prop :=
  ∀ b, w.outcome b = match x with
    | .ok ps => (.ok (), b.append ps)
    | .error e => (.error e, b)

section Steps

variable {α β γ : Type} {w : Appending α} {f : α → Appending β} {a : α} {c : β}
  {ps qs : List Piece} {x : Except Error α}

/-- Steps behind others start where those ended, unless those gave an error. -/
theorem outcome_bind (w : Appending α) (f : α → Appending β) (b : Builder) :
    (w >>= f).outcome b = match w.outcome b with
      | (.ok a, b') => (f a).outcome b'
      | (.error e, b') => (.error e, b') := by
  show (match w.run.run b with | (x, b') => (ExceptT.bindCont f x).run b') = _
  rw [outcome]
  rcases w.run.run b with ⟨_ | a, b'⟩ <;> rfl

theorem idle_pure (a : α) : Idle (pure a) (.ok a) := fun _ => rfl

theorem idle_check (x : Except Error α) : Idle (check x) x := fun _ => rfl

theorem appends_pure (a : α) : Appends (pure a) a [] := fun b => by
  rw [b.append_nil]
  rfl

theorem appends_write (ps : List Piece) : Appends (write ps) () ps := fun _ => rfl

theorem Idle.bind (hw : Idle w x) {y : α → Except Error β} (hf : ∀ a, Idle (f a) (y a)) :
    Idle (w >>= f) (x >>= y) := by
  intro b
  rw [outcome_bind, hw b]
  cases x with
  | ok a => exact hf a b
  | error e => rfl

theorem Appends.bind (hw : Appends w a ps) (hf : Appends (f a) c qs) :
    Appends (w >>= f) c (ps ++ qs) := by
  intro b
  rw [outcome_bind, hw b, b.append_append]
  exact hf _

theorem Appends.andThen {w : Appending Unit} {v : Appending α} (hw : Appends w () ps)
    (hv : Appends v a qs) : Appends (do w; v) a (ps ++ qs) :=
  hw.bind (f := fun _ => v) hv

theorem Appends.performs {w : Appending Unit} (h : Appends w () ps) (hps : ps = qs) :
    Performs w (.ok qs) := hps ▸ h

theorem Idle.performs {w : Appending Unit} {e : Error} (h : Idle w (.error e)) :
    Performs w (.error e) := h

/-- Steps behind a check append all or nothing if they do so once it is passed. -/
theorem Idle.bind_performs {f : α → Appending Unit} {y : α → Except Error (List Piece)}
    (hw : Idle w x) (hf : ∀ a, x = .ok a → Performs (f a) (y a)) :
    Performs (w >>= f) (x >>= y) := by
  intro b
  rw [outcome_bind, hw b]
  cases x with
  | ok a => exact hf a rfl b
  | error e => rfl

/-- Items with a separator between them. -/
theorem appends_list {item : γ → Appending Unit} {pieces : γ → List Piece} {l : List γ}
    (h : ∀ c ∈ l, Appends (item c) () (pieces c)) (separator : String) :
    Appends (list separator item l) () (separated separator (l.map pieces)) := by
  induction l with
  | nil => exact appends_pure ()
  | cons c cs ih =>
    have hc := h c List.mem_cons_self
    have hrest := ih fun d hd => h d (List.mem_cons_of_mem c hd)
    cases cs with
    | nil => exact hc
    | cons d cs => exact hc.andThen ((appends_write [.sql separator]).andThen hrest)

end Steps

/-! ### Clauses -/

theorem appends_setClause (qualified : Bool) (as : List Assignment) :
    Appends (setClause qualified as) () (setPieces qualified as) := by
  refine (appends_write [.sql " SET "]).andThen (appends_list (fun a _ => ?_) ", ")
  exact (appends_write (assignedName qualified a.column)).andThen
    ((appends_write [.sql " = "]).andThen (appends_write a.valuePieces))

theorem appends_whereClause (filter : Option Expr) :
    Appends (whereClause filter) () (wherePieces filter) := by
  cases filter with
  | none => exact appends_pure ()
  | some e => exact (appends_write [.sql " WHERE "]).andThen (appends_write e.pieces)

theorem appends_conjunct (e : Expr) : Appends (conjunct e) () (conjunctPieces e) := by
  rw [conjunct, conjunctPieces]
  cases e.isDisjunction with
  | true =>
    exact (appends_write [.sql "("]).andThen
      ((appends_write e.pieces).andThen (appends_write [.sql ")"]))
  | false => exact appends_write e.pieces

theorem appends_fromClause (t : Table) (j : Join) :
    Appends (fromClause t j) () (fromPieces t j) := by
  rw [fromClause, fromPieces]
  cases otherTables t j with
  | nil => exact appends_pure ()
  | cons u others =>
    exact (appends_write [.sql " FROM "]).andThen
      (appends_list (fun u _ => appends_write [.name u.name]) ", ")

/-- The conditions of a join behind `WHERE`. -/
def joinedPieces (j : Join) : List Piece :=
  match joinConditions j with
  | [] => []
  | cs => .sql " WHERE " :: separated " AND " cs

theorem appends_joinedClause (j : Join) :
    Appends (joinedClause j) (!(joinConditions j).isEmpty) (joinedPieces j) := by
  rw [joinedClause, joinedPieces, joinConditions]
  cases j.parts.filter JoinPart.hasConditions with
  | nil => exact appends_pure false
  | cons p parts =>
    have hconditions := appends_list (l := p :: parts)
      (fun p _ => appends_write p.conditionPieces) " AND "
    have hall := (appends_write [.sql " WHERE "]).andThen (hconditions.andThen (appends_pure true))
    rw [List.append_nil] at hall
    exact hall

/-- The condition on the rows, behind the conditions of a join if there are any. -/
theorem appends_furtherClause (j : Join) (filter : Option Expr) :
    ∃ ps, Appends (furtherClause (!(joinConditions j).isEmpty) filter) () ps ∧
      joinedPieces j ++ ps = joinedWherePieces j filter := by
  rw [joinedPieces, joinedWherePieces.eq_def]
  cases filter with
  | none =>
    refine ⟨[], appends_pure (), ?_⟩
    cases joinConditions j <;> simp [wherePieces]
  | some e =>
    cases joinConditions j with
    | nil => exact ⟨_, appends_whereClause (some e), rfl⟩
    | cons c cs => exact ⟨_, (appends_write [.sql " AND "]).andThen (appends_conjunct e), by simp⟩

/-! ### Columns of a query -/

/-- The numbers that the columns of a query are called by for an assignment. -/
def Assignment.numbers (next : Nat) (a : Assignment) : Nat × Option Nat :=
  match a.assigned with
  | .value _ => (next, none)
  | .expr _ => (next, some (next + 1))

/-- The count gives all numbers, unless an expression binds arguments. -/
theorem idle_columnNumbers (d : Dialect) (next : Nat) (as : List Assignment) :
    Idle (columnNumbers d next as) (match boundExpression? as with
      | some c => .error (.unsupported (.argumentInView d c))
      | none => .ok ((aliased next as).map fun c => c.2.numbers c.1)) := by
  induction as generalizing next with
  | nil => exact idle_pure []
  | cons a as ih =>
    obtain ⟨column, v | e⟩ := a
    · have hrest := (ih (next + 1)).bind fun rest => idle_pure ((next, none) :: rest)
      intro b
      refine (hrest b).trans ?_
      show _ = (match boundExpression? as with
        | some c => _
        | none => _, b)
      cases boundExpression? as <;> rfl
    · rw [columnNumbers]
      by_cases hbound : 0 < e.argumentCount
      · simp only [if_pos hbound, boundExpression?, List.findSome?_cons]
        exact idle_check _
      · have hrest := (ih (next + 2)).bind fun rest => idle_pure ((next, some (next + 1)) :: rest)
        have hskip : boundExpression? (⟨column, .expr e⟩ :: as) = boundExpression? as := by
          simp [boundExpression?, hbound]
        rw [hskip]
        simp only [if_neg hbound]
        intro b
        refine (hrest b).trans ?_
        cases boundExpression? as <;> rfl

theorem zip_numbers (next : Nat) (as : List Assignment) :
    as.zip ((aliased next as).map fun c => c.2.numbers c.1)
      = (aliased next as).map fun c => (c.2, c.2.numbers c.1) := by
  induction as generalizing next with
  | nil => rfl
  | cons a as ih => exact congrArg (_ :: ·) (ih (next + a.width))

theorem appends_selected (n : Nat) (a : Assignment) :
    Appends (selected (a, a.numbers n)) () (selectPieces n a) := by
  obtain ⟨c, v | e⟩ := a
  · exact (appends_write (Piece.qualified c)).andThen
      ((appends_write [.sql " ", aliasPiece n]).andThen (appends_pure ()))
  · have hvalue := (appends_write [.sql ", "]).andThen ((appends_write e.pieces).andThen
      (appends_write [.sql " ", aliasPiece (n + 1)]))
    have hall := (appends_write (Piece.qualified c)).andThen
      ((appends_write [.sql " ", aliasPiece n]).andThen hvalue)
    rw [← List.append_assoc] at hall
    exact hall

theorem appends_settled (n : Nat) (a : Assignment) :
    Appends (settled (a, a.numbers n)) () (viewSetPieces n a) := by
  have hname := appends_write [.sql "x.", aliasPiece n, .sql " = "]
  obtain ⟨c, v | e⟩ := a
  · exact hname.andThen (appends_write (Assignment.valuePieces ⟨c, .value v⟩))
  · exact hname.andThen (appends_write [.sql "x.", aliasPiece (n + 1)])

/-- Something for each assignment and its numbers. -/
theorem appends_numbered {item : Assignment × Nat × Option Nat → Appending Unit}
    {pieces : Nat → Assignment → List Piece}
    (h : ∀ n a, Appends (item (a, a.numbers n)) () (pieces n a)) (as : List Assignment) :
    Appends (list ", " item (as.zip ((aliased 0 as).map fun c => c.2.numbers c.1))) ()
      (separated ", " ((aliased 0 as).map fun c => pieces c.1 c.2)) := by
  have hnumber (n : Nat) (a : Assignment) : (a.numbers n).1 = n := by
    obtain ⟨c, v | e⟩ := a <;> rfl
  have hlist : Appends (list ", " item ((aliased 0 as).map fun c => (c.2, c.2.numbers c.1))) ()
      (separated ", " (((aliased 0 as).map fun c => (c.2, c.2.numbers c.1)).map
        fun c => pieces c.2.1 c.1)) := by
    refine appends_list (List.forall_mem_map.2 fun c _ => ?_) ", "
    rw [hnumber]
    exact h c.1 c.2
  rw [List.map_map] at hlist
  rw [zip_numbers]
  simpa only [Function.comp_def, hnumber] using hlist

/-! ### Statements -/

/-- A statement in the form that was decided for it, or the reason why there is none. -/
def planned (as : List Assignment) (filter : Option Expr) (form : Except Error Form) :
    Except Error (List Piece) := form.map fun form => Plan.pieces ⟨form, as, filter⟩

theorem planned_bind {α : Type} (as : List Assignment) (filter : Option Expr) (x : Except Error α)
    (f : α → Except Error Form) :
    planned as filter (x >>= f) = x >>= fun a => planned as filter (f a) := by
  cases x <;> rfl

section Statements

variable (d : Dialect) (j : Join) (as : List Assignment) (limit : Option Nat) (filter : Option Expr)

theorem performs_updateTables : Performs (updateTables d j as limit filter)
    (planned as filter (do
      refuseLimit (.limitOfTables d) limit
      requireJoined j as
      .ok (.list j))) := by
  rw [planned_bind]
  refine (idle_check _).bind_performs fun _ _ => ?_
  rw [planned_bind]
  refine (idle_check _).bind_performs fun _ _ => ?_
  have hall := (appends_write [.sql "UPDATE "]).andThen ((appends_write j.pieces).andThen
    ((appends_setClause true as).andThen (appends_whereClause filter)))
  exact hall.performs (by simp [Plan.pieces])

theorem performs_updateFrom (qualified : Bool) : Performs (updateFrom d qualified limit j as filter)
    (planned as filter (do
      let t ← updatedTable d j as
      .ok (.from t j qualified limit))) := by
  rw [planned_bind]
  refine (idle_check _).bind_performs fun t _ => ?_
  obtain ⟨ps, hfilter, hps⟩ := appends_furtherClause j filter
  have hjoined := (appends_joinedClause j).bind (f := fun b => furtherClause b filter) hfilter
  have hall := (appends_write [.sql "UPDATE "]).andThen ((appends_write (topPieces limit)).andThen
    ((appends_write [.name t.name]).andThen ((appends_setClause qualified as).andThen
      ((appends_fromClause t j).andThen hjoined))))
  exact hall.performs (by simp [Plan.pieces, hps])

theorem performs_mergeJoin : Performs (mergeJoin d j as limit filter)
    (planned as filter (do
      refuseLimit (.limitOfJoin d) limit
      let t ← updatedTable d j as
      match j.parts with
      | [part] => .ok (.merge t (mergeSource t j part) part)
      | _ => .error (.unsupported (.severalParts d)))) := by
  rw [planned_bind]
  refine (idle_check _).bind_performs fun _ _ => ?_
  rw [planned_bind]
  refine (idle_check _).bind_performs fun t _ => ?_
  match j.parts with
  | [] => exact (idle_check _).performs
  | [part] =>
    have hset := (appends_write [.sql " WHEN MATCHED THEN UPDATE"]).andThen
      ((appends_setClause true as).andThen (appends_whereClause filter))
    have hconditions := (appends_write [.sql " ON "]).andThen
      ((appends_write (mergeConditions part)).andThen hset)
    have hsource := (appends_write [.sql " USING "]).andThen
      ((appends_write [.name (mergeSource t j part).name]).andThen hconditions)
    have hall := (appends_write [.sql "MERGE INTO "]).andThen
      ((appends_write [.name t.name]).andThen hsource)
    exact hall.performs (by simp [Plan.pieces])
  | _ :: _ :: _ => exact (idle_check _).performs

theorem performs_updateView : Performs (updateView d j as limit filter)
    (planned as filter (do
      let _ ← updatedTable d j as
      match boundExpression? as with
      | some c => .error (.unsupported (.argumentInView d c))
      | none => .ok (.view j limit))) := by
  rw [planned_bind]
  refine (idle_check _).bind_performs fun _ _ => ?_
  have hnumbers := idle_columnNumbers d 0 as
  cases hbound : boundExpression? as with
  | some c =>
    rw [hbound] at hnumbers
    exact hnumbers.bind_performs (y := fun _ => .ok []) nofun
  | none =>
    rw [hbound] at hnumbers
    refine hnumbers.bind_performs (y := fun _ => planned as filter (.ok (.view j limit)))
      fun numbers h => ?_
    cases h
    have hall := (appends_write [.sql "UPDATE (SELECT "]).andThen
      ((appends_numbered appends_selected as).andThen ((appends_write [.sql " FROM "]).andThen
        ((appends_write j.pieces).andThen ((appends_whereClause filter).andThen
          ((appends_write [.sql ") x SET "]).andThen
            ((appends_numbered appends_settled as).andThen
              (appends_write (rownumClause limit))))))))
    exact hall.performs (by simp [Plan.pieces])

/-- What a dialect appends for a join is the form that is decided for it, and nothing is appended if
there is none. -/
theorem performs_updateJoin :
    Performs (d.updateJoin j as limit filter) (planned as filter (planJoin d j as limit)) := by
  have hlimited (qualified : Bool) : Performs (do
      check (refuseLimit (.limit d) limit)
      updateFrom d qualified none j as filter) (planned as filter (do
        refuseLimit (.limit d) limit
        let t ← updatedTable d j as
        .ok (.from t j qualified limit))) := by
    rw [planned_bind]
    refine (idle_check _).bind_performs fun _ h => ?_
    obtain rfl : limit = none := by
      cases limit with
      | none => rfl
      | some n => cases h
    exact performs_updateFrom d j as none filter qualified
  cases d with
  | generic => exact (idle_check _).performs
  | h2 => exact performs_mergeJoin .h2 j as limit filter
  | mysql => exact performs_updateTables .mysql j as limit filter
  | mariadb => exact performs_updateTables .mariadb j as limit filter
  | postgresql => exact hlimited false
  | oracle => exact performs_updateView .oracle j as limit filter
  | sqlserver => exact performs_updateFrom .sqlserver j as limit filter true
  | sqlite => exact hlimited false

variable (t : Table)

theorem performs_updatePlain (h : d.limitStyle? = some .suffix ∨ d.limitStyle? = none) :
    Performs (updatePlain d t as limit filter) (planned as filter (planTable d t limit)) := by
  have hplan : planTable d t limit = (do
      allowLimit d limit
      .ok (.table t (limit.map fun n => (.suffix, n)))) := by
    rw [planTable.eq_def, allowLimit, Dialect.supportsLimit]
    rcases h with h | h <;> rw [h] <;> cases limit <;> rfl
  rw [hplan, planned_bind]
  refine (idle_check _).bind_performs fun _ _ => ?_
  have hlimit : Appends (limitClause limit) ()
      (limit.elim [] fun n => [.sql " LIMIT ", numberPiece n]) := by
    cases limit with
    | none => exact appends_pure ()
    | some n => exact appends_write _
  have hall := (appends_write [.sql "UPDATE "]).andThen ((appends_write [.name t.name]).andThen
    ((appends_setClause false as).andThen ((appends_whereClause filter).andThen hlimit)))
  cases limit with
  | none => exact hall.performs (by simp [Plan.pieces, tablePieces])
  | some n => exact hall.performs (by simp [Plan.pieces, tablePieces])

theorem performs_updateTop :
    Performs (updateTop t as limit filter) (planned as filter (planTable .sqlserver t limit)) := by
  have hall := (appends_write [.sql "UPDATE "]).andThen ((appends_write (topPieces limit)).andThen
    ((appends_write [.name t.name]).andThen ((appends_setClause false as).andThen
      (appends_whereClause filter))))
  cases limit with
  | none => exact hall.performs (by simp [Plan.pieces, tablePieces, topPieces])
  | some n => exact hall.performs (by simp [Plan.pieces, tablePieces])

theorem performs_updateNumbered : Performs (updateNumbered t as limit filter)
    (planned as filter (planTable .oracle t limit)) := by
  have hset {ps : List Piece} (hfilter : Appends (rownumFilter filter limit) () ps) :=
    (appends_write [.sql "UPDATE "]).andThen ((appends_write [.name t.name]).andThen
      ((appends_setClause false as).andThen hfilter))
  cases limit with
  | none =>
    have hfilter : Appends (rownumFilter filter none) () (wherePieces filter) := by
      cases filter with
      | none => exact appends_whereClause none
      | some e => exact appends_whereClause (some e)
    exact (hset hfilter).performs (by simp [Plan.pieces, tablePieces])
  | some n =>
    cases filter with
    | none => exact (hset (appends_write (rownumClause (some n)))).performs rfl
    | some e =>
      have hfilter := (appends_write [.sql " WHERE "]).andThen ((appends_conjunct e).andThen
        (appends_write (.sql " AND " :: rownumPieces n)))
      exact (hset hfilter).performs (by simp [Plan.pieces, tablePieces])

/-- The same for a table. -/
theorem performs_updateTable :
    Performs (d.updateTable t as limit filter) (planned as filter (planTable d t limit)) := by
  cases d with
  | generic => exact performs_updatePlain .generic as limit filter t (.inl rfl)
  | h2 => exact performs_updatePlain .h2 as limit filter t (.inl rfl)
  | mysql => exact performs_updatePlain .mysql as limit filter t (.inl rfl)
  | mariadb => exact performs_updatePlain .mariadb as limit filter t (.inl rfl)
  | postgresql => exact performs_updatePlain .postgresql as limit filter t (.inr rfl)
  | oracle => exact performs_updateNumbered as limit filter t
  | sqlserver => exact performs_updateTop as limit filter t
  | sqlite => exact performs_updatePlain .sqlite as limit filter t (.inr rfl)

end Statements

/-! ### Refusals -/

/-- Steps that append all or nothing leave the builder as it was if they give an error. -/
theorem Performs.eq_error_iff {w : Appending Unit} {x : Except Error (List Piece)}
    (h : Performs w x) {b b' : Builder} {e : Error} :
    w.outcome b = (.error e, b') ↔ x = .error e ∧ b' = b := by
  rw [h b]
  cases x with
  | ok ps => simp
  | error e' => simp [eq_comm]

/-- A statement is refused for the reason why no form could be decided for it. -/
theorem planned_eq_error_iff {as : List Assignment} {filter : Option Expr}
    {form : Except Error Form} {e : Error} :
    planned as filter form = .error e ↔ form = .error e := by
  cases form <;> simp [planned, Except.map]

/-- **A refused statement leaves no trace.** A dialect writes an UPDATE of a table or of a join
step by step behind what a builder holds already. Where it stops with an error, the builder is the
one it started from, and that happens just where no form can be decided for the statement. -/
theorem refused_untouched (d : Dialect) (b b' : Builder) (as : List Assignment)
    (limit : Option Nat) (filter : Option Expr) (e : Error) :
    (∀ t : Table, (d.updateTable t as limit filter).outcome b = (.error e, b') ↔
      planTable d t limit = .error e ∧ b' = b) ∧
    ∀ j : Join, (d.updateJoin j as limit filter).outcome b = (.error e, b') ↔
      planJoin d j as limit = .error e ∧ b' = b := by
  refine ⟨fun t => ?_, fun j => ?_⟩
  · rw [(performs_updateTable d as limit filter t).eq_error_iff, planned_eq_error_iff]
  · rw [(performs_updateJoin d j as limit filter).eq_error_iff, planned_eq_error_iff]

/-- The second expression binds a value, behind a statement that is written already. -/
theorem refused_untouched_boundExpression :
    let column name := Column.mk "data" name .integer
    let j := (Join.ofTable ⟨"users", []⟩).on .inner ⟨"data", []⟩ ⟨"users", "id", .integer⟩
      (column "user_id")
    let more := Expr.binary .add (.column (column "num")) (.argument ⟨.integer, .int 1⟩)
    let as := [⟨column "num", .expr (.column (column "total"))⟩, ⟨column "total", .expr more⟩]
    let b := Builder.mk .mysql .prepared "DELETE FROM log WHERE id = ?; " [⟨.integer, .int 7⟩]
    (Dialect.oracle.updateJoin j as none none).outcome b
      = (.error (.unsupported (.argumentInView .oracle (column "total"))), b) := by
  intro column j more as b
  exact ((refused_untouched .oracle b b as none none _).2 j).2 ⟨rfl, rfl⟩

/-! ### Writing at once -/

/-- Deciding the form of a statement and appending it at once is writing it step by step. -/
theorem update_table_eq_outcome (b : Builder) (t : Table) (as : List Assignment)
    (limit : Option Nat) (filter : Option Expr) :
    b.update (.table t) as limit filter
      = (b.dialect.updateTable t as limit filter).outcome b := by
  rw [performs_updateTable b.dialect as limit filter t b, Builder.update, planTarget]
  cases planTable b.dialect t limit <;> rfl

/-- The same for a join. -/
theorem update_join_eq_outcome (b : Builder) (j : Join) (as : List Assignment)
    (limit : Option Nat) (filter : Option Expr) :
    b.update (.join j) as limit filter = (b.dialect.updateJoin j as limit filter).outcome b := by
  rw [performs_updateJoin b.dialect j as limit filter b, Builder.update, planTarget]
  cases planJoin b.dialect j as limit <;> rfl

/-- A statement that assigns something is rendered with the text that an empty builder holds once
it has taken the statement. -/
theorem text_render_eq_update (ctx : Context) (u : Update) (h : u.assignments ≠ []) (r : Reading) :
    let b := Builder.empty (ctx.dialectOf u.target) r
    (u.render ctx).map (fun s => s.text r)
      = (b.update u.target u.assignments u.limit u.filter).1.map
        fun _ => (b.update u.target u.assignments u.limit u.filter).2.sql := by
  intro b
  have hassigned : u.assignments.isEmpty = false := by simp [h]
  rw [Update.render, hassigned, Builder.update]
  show (planTarget _ u.target u.assignments u.limit >>= _).map _ = _
  cases hform : planTarget (ctx.dialectOf u.target) u.target u.assignments u.limit with
  | error e => simp [b, Builder.empty, hform]; rfl
  | ok form => simp [b, Builder.empty, hform, Builder.append, Rendered.text]; rfl

end SqlUpdate
