import SqlUpdate.Proofs.Statement.Forms
/-!
# Arguments stand in the order of their placeholders

`Update.arguments` finds the arguments without writing the statement. This file follows the writers
clause by clause and shows that what they bind is the same list.

* `argumentsOf_setPieces`, `argumentsOf_wherePieces`, ... — what each clause binds.
* `argumentsOf_viewPieces` — the query of a view binds the condition in front of the values, and
  its columns bind nothing once `boundExpression?` has found no fault.
* `argumentsOf_planPieces` — what a planned statement binds.
* `prepareChecked_of_render` — when the assertion of a build for debugging fails.
* `registered_eq_arguments` — the builder that a statement was written into has registered exactly
  `Update.arguments`.
-/

namespace SqlUpdate

/-! ### Clauses -/

/-- The value of an assignment binds its arguments. -/
@[simp] theorem argumentsOf_valuePieces (a : Assignment) :
    argumentsOf a.valuePieces = a.arguments := by
  obtain ⟨c, v | e⟩ := a
  · rfl
  · exact Expr.argumentsOf_pieces e

/-- The name of an assigned column binds nothing. -/
@[simp] theorem argumentsOf_assignedName (qualified : Bool) (c : Column) :
    argumentsOf (assignedName qualified c) = [] := by
  cases qualified <;> rfl

/-- The assignments bind their arguments in turn. -/
@[simp] theorem argumentsOf_setPieces (qualified : Bool) (as : List Assignment) :
    argumentsOf (setPieces qualified as) = as.flatMap Assignment.arguments := by
  rw [setPieces, argumentsOf_sql, argumentsOf_separated, List.flatMap_map]
  simp

/-- The arguments of a condition that may be missing. -/
def filterArgumentsOf (filter : Option Expr) : List Argument := (filter.map Expr.arguments).getD []

/-- The condition on the rows binds its arguments. -/
@[simp] theorem argumentsOf_wherePieces (filter : Option Expr) :
    argumentsOf (wherePieces filter) = filterArgumentsOf filter := by
  cases filter with
  | none => rfl
  | some e => rw [wherePieces, argumentsOf_sql, Expr.argumentsOf_pieces]; rfl

/-- A condition beside others binds its arguments. -/
@[simp] theorem argumentsOf_conjunctPieces (e : Expr) :
    argumentsOf (conjunctPieces e) = e.arguments := by
  rw [conjunctPieces, argumentsOf_parenthesizedIf, Expr.argumentsOf_pieces]

/-- A number of rows is text and binds nothing. -/
@[simp] theorem argumentsOf_numberPiece (n : Nat) (ps : List Piece) :
    argumentsOf (numberPiece n :: ps) = argumentsOf ps := rfl

@[simp] theorem argumentsOf_topPieces (n : Option Nat) : argumentsOf (topPieces n) = [] := by
  cases n <;> rfl

@[simp] theorem argumentsOf_rownumPieces (n : Nat) : argumentsOf (rownumPieces n) = [] := rfl

@[simp] theorem argumentsOf_rownumClause (n : Option Nat) : argumentsOf (rownumClause n) = [] := by
  cases n <;> rfl

/-! ### Joins -/

/-- Literals bind nothing. -/
@[simp] theorem argumentsOf_map_inlined (ps : List Piece) :
    argumentsOf (ps.map Piece.inlined) = [] := by
  induction ps with
  | nil => rfl
  | cons p ps ih =>
    rw [List.map_cons, argumentsOf, List.filterMap_cons_none (Piece.argument?_inlined p)]
    exact ih

/-- No condition of a join part binds anything. -/
@[simp] theorem argumentsOf_conditionPieces (p : JoinPart) :
    argumentsOf p.conditionPieces = [] := by
  rw [JoinPart.conditionPieces, argumentsOf_separated, List.flatMap_eq_nil_iff]
  intro ps hps
  rw [JoinPart.conditions, List.mem_append, List.mem_map] at hps
  rcases hps with ⟨pair, -, rfl⟩ | hps
  · rfl
  · cases hc : p.constraint with
    | none => simp [hc] at hps
    | some e =>
      have : ps = constraintPieces e := by simpa [hc] using hps
      rw [this, constraintPieces, argumentsOf_parenthesized, argumentsOf_map_inlined]

@[simp] theorem argumentsOf_partPieces (p : JoinPart) : argumentsOf p.pieces = [] := by
  rw [JoinPart.pieces]
  split <;> simp

/-- A join binds nothing. -/
@[simp] theorem argumentsOf_joinPieces (j : Join) : argumentsOf j.pieces = [] := by
  rw [Join.pieces, argumentsOf_name]
  induction j.parts with
  | nil => rfl
  | cons p ps ih => rw [List.flatMap_cons, argumentsOf_append, argumentsOf_partPieces, ih]; rfl

@[simp] theorem argumentsOf_fromPieces (t : Table) (j : Join) :
    argumentsOf (fromPieces t j) = [] := by
  rw [fromPieces]
  split
  · rfl
  · simp [List.flatMap_map]

/-- The conditions of a join bind nothing, so only the condition behind them does. -/
@[simp] theorem argumentsOf_joinedWherePieces (j : Join) (filter : Option Expr) :
    argumentsOf (joinedWherePieces j filter) = filterArgumentsOf filter := by
  have hj : (joinConditions j).flatMap argumentsOf = [] := by
    rw [joinConditions, List.flatMap_map, List.flatMap_eq_nil_iff]
    exact fun p _ => argumentsOf_conditionPieces p
  unfold joinedWherePieces
  split
  · exact argumentsOf_wherePieces filter
  · rw [List.cons_append, argumentsOf_sql, argumentsOf_append, argumentsOf_separated, hj,
      List.nil_append]
    cases filter with
    | none => rfl
    | some e => rw [argumentsOf_sql, argumentsOf_conjunctPieces]; rfl

@[simp] theorem argumentsOf_mergeConditions (p : JoinPart) :
    argumentsOf (mergeConditions p) = [] := by
  rw [mergeConditions]
  split
  · exact argumentsOf_conditionPieces p
  · rfl

/-! ### Views -/

/-- No assigned expression binds anything. -/
def NoBoundExpression (as : List Assignment) : Prop :=
  ∀ a ∈ as, ∀ e, a.assigned = .expr e → e.arguments = []

/-- A view is refused unless no assigned expression binds anything. -/
theorem noBoundExpression_of_eq_none {as : List Assignment} (h : boundExpression? as = none) :
    NoBoundExpression as := by
  intro a ha e he
  have hc := List.findSome?_eq_none_iff.1 h a ha
  rw [he] at hc
  have hz : e.argumentCount = 0 := by
    refine Nat.eq_zero_of_not_pos fun hpos => ?_
    have : some a.column = none := (if_pos hpos).symm.trans hc
    cases this
  exact List.eq_nil_of_length_eq_zero ((Expr.length_arguments e).trans hz)

theorem argumentsOf_selectPieces (n : Nat) {a : Assignment}
    (h : ∀ e, a.assigned = .expr e → e.arguments = []) : argumentsOf (selectPieces n a) = [] := by
  obtain ⟨c, v | e⟩ := a
  · rfl
  · have he : e.arguments = [] := h e rfl
    simp [selectPieces, aliasPiece, Expr.argumentsOf_pieces, he]

theorem argumentsOf_viewSetPieces (n : Nat) {a : Assignment}
    (h : ∀ e, a.assigned = .expr e → e.arguments = []) :
    argumentsOf (viewSetPieces n a) = a.arguments := by
  obtain ⟨c, v | e⟩ := a
  · rfl
  · exact (h e rfl).symm

/-- An UPDATE of a view binds its condition first and the assigned values behind it. -/
theorem argumentsOf_viewPieces (j : Join) (limit : Option Nat) {as : List Assignment}
    (filter : Option Expr) (h : NoBoundExpression as) :
    argumentsOf (Plan.pieces ⟨.view j limit, as, filter⟩)
      = filterArgumentsOf filter ++ as.flatMap Assignment.arguments := by
  have hselect : (aliased 0 as).flatMap (fun c => argumentsOf (selectPieces c.1 c.2)) = [] :=
    List.flatMap_eq_nil_iff.2 fun c hc =>
      argumentsOf_selectPieces c.1 (h c.2 (snd_mem_of_mem_aliased hc))
  have hset : (aliased 0 as).flatMap (fun c => argumentsOf (viewSetPieces c.1 c.2))
      = as.flatMap Assignment.arguments := by
    calc (aliased 0 as).flatMap (fun c => argumentsOf (viewSetPieces c.1 c.2))
        = (aliased 0 as).flatMap (fun c => c.2.arguments) := by
          rw [List.flatMap_def, List.flatMap_def]
          congr 1
          exact List.map_congr_left fun c hc =>
            argumentsOf_viewSetPieces c.1 (h c.2 (snd_mem_of_mem_aliased hc))
      _ = ((aliased 0 as).map Prod.snd).flatMap Assignment.arguments := by rw [List.flatMap_map]
      _ = as.flatMap Assignment.arguments := by rw [map_snd_aliased]
  simp [Plan.pieces, List.flatMap_map, hselect, hset]

/-! ### Statements -/

/-- An UPDATE of a table binds the assigned values first and its condition behind them. -/
theorem argumentsOf_tablePieces (t : Table) (limit : Option (LimitStyle × Nat))
    (as : List Assignment) (filter : Option Expr) :
    argumentsOf (tablePieces t limit as filter)
      = as.flatMap Assignment.arguments ++ filterArgumentsOf filter := by
  obtain _ | ⟨_ | _ | _, n⟩ := limit
  · simp [tablePieces]
  · simp [tablePieces]
  · simp [tablePieces]
  · cases filter with
    | none => simp [tablePieces, filterArgumentsOf]
    | some e => simp [tablePieces, filterArgumentsOf]

/-- Whether a form writes the condition in front of the assignments. -/
def Form.filterFirst : Form → Bool
  | .view .. => true
  | _ => false

/-- What a statement binds once its form is decided. -/
theorem argumentsOf_planPieces (form : Form) (as : List Assignment) (filter : Option Expr)
    (h : form.filterFirst = true → NoBoundExpression as) :
    argumentsOf (Plan.pieces ⟨form, as, filter⟩) =
      if form.filterFirst then filterArgumentsOf filter ++ as.flatMap Assignment.arguments
      else as.flatMap Assignment.arguments ++ filterArgumentsOf filter := by
  cases form with
  | table t limit => exact argumentsOf_tablePieces t limit as filter
  | list j => simp [Plan.pieces, Form.filterFirst]
  | «from» t j qualified top => simp [Plan.pieces, Form.filterFirst]
  | merge t source part => simp [Plan.pieces, Form.filterFirst]
  | view j limit => exact argumentsOf_viewPieces j limit filter (h rfl)

/-- Only a native Oracle database updates views. -/
theorem isOracle_eq_of_joinStyle (ctx : Context) :
    ctx.isOracle = decide (ctx.joinDialect.joinStyle = .view) := by
  obtain ⟨d, m⟩ := ctx
  cases d <;> try rfl
  cases m with
  | none => rfl
  | some m => cases m <;> rfl

/-- The condition of a planned statement is written in front where `Update.filterFirst` says so, and
then no assigned expression binds anything. -/
theorem filterFirst_of_planTarget {ctx : Context} {u : Update} {form : Form}
    (h : planTarget (ctx.dialectOf u.target) u.target u.assignments u.limit = .ok form) :
    form.filterFirst = u.filterFirst ctx ∧
      (form.filterFirst = true → NoBoundExpression u.assignments) := by
  obtain ⟨t, ht, hform⟩ | ⟨j, hj, hform⟩ := planTarget_eq_ok h
  · rw [Update.filterFirst, ht]
    obtain ⟨-, rfl⟩ | ⟨n, style, -, -, rfl⟩ := planTable_eq_ok hform
    · exact ⟨rfl, nofun⟩
    · exact ⟨rfl, nofun⟩
  · rw [hj] at hform
    rw [Update.filterFirst, hj]
    show form.filterFirst = ctx.isOracle ∧ _
    rw [isOracle_eq_of_joinStyle]
    cases planJoin_eq_ok hform with
    | list hs => rw [show ctx.joinDialect.joinStyle = _ from hs]; exact ⟨rfl, nofun⟩
    | «from» hs => rw [show ctx.joinDialect.joinStyle = _ from hs]; exact ⟨rfl, nofun⟩
    | merge hs => rw [show ctx.joinDialect.joinStyle = _ from hs]; exact ⟨rfl, nofun⟩
    | view hs _ hb =>
      rw [show ctx.joinDialect.joinStyle = _ from hs]
      exact ⟨rfl, fun _ => noBoundExpression_of_eq_none hb⟩

/-- A rendered statement binds the arguments that are listed for it, in the same order. -/
theorem argumentsOf_render {ctx : Context} {u : Update} {s : Rendered} (h : u.render ctx = .ok s) :
    argumentsOf s.pieces = u.argumentList ctx := by
  obtain ⟨-, form, hform, rfl⟩ := render_eq_ok h
  obtain ⟨hfirst, hbound⟩ := filterFirst_of_planTarget hform
  rw [argumentsOf_planPieces form u.assignments u.filter hbound, hfirst]
  rfl

/-! ### Batches -/

/-- The only batch holds all arguments, and there is no batch of none. -/
theorem arguments_eq (ctx : Context) (u : Update) :
    u.arguments ctx = if u.argumentList ctx = [] then [] else [u.argumentList ctx] := by
  unfold Update.arguments
  split
  · rename_i h; rw [h]; rfl
  · rename_i h; rw [if_neg h]

theorem flatten_arguments (ctx : Context) (u : Update) :
    (u.arguments ctx).flatten = u.argumentList ctx := by
  rw [arguments_eq]
  split
  · rename_i h; exact h.symm
  · exact List.flatten_singleton

end SqlUpdate
