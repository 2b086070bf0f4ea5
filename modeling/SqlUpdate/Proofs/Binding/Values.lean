import SqlUpdate.Proofs.Binding.Order
/-!
# Compiled texts do not depend on values

A value that is bound stops at its placeholder. To say so, every value of a statement is replaced
by the same blank, and all else is left as it is; two statements that become equal in this way
differ in the values that they bind and in nothing else.

* `Expr.blank`, `Update.blank` — expressions and statements with a blank for every value.
* `Expr.pieces_blank`, `Plan.pieces_blank` — writing goes on alike: the pieces are those from before
  with blanks in the arguments. Literals of a join stay, since they are part of the relation.
* `planTarget_blank` — no check looks at a value.
* `compile_eq_of_sameButValues` — the texts or errors of such statements, and the types of their
  arguments, are the same.
-/

namespace SqlUpdate

/-! ### Blanks -/

def Argument.blank (a : Argument) : Argument := ⟨a.type, .null⟩

namespace Expr

mutual
/-- The expression with a blank for every value that it binds. -/
def blank : Expr → Expr
  | .column c => .column c
  | .argument a => .argument a.blank
  | .raw s => .raw s
  | .binary op e f => .binary op e.blank f.blank
  | .not e => .not e.blank
  | .isNull negated e => .isNull negated e.blank
  | .inList negated e items => .inList negated e.blank (blankItems items)
  | .between negated e low high => .between negated e.blank low.blank high.blank
  | .paren e => .paren e.blank

def blankItems : List Expr → List Expr
  | [] => []
  | e :: es => e.blank :: blankItems es
end

end Expr

def Assigned.blank : Assigned → Assigned
  | .value _ => .value .null
  | .expr e => .expr e.blank

def Assignment.blank (a : Assignment) : Assignment := ⟨a.column, a.assigned.blank⟩

/-- The statement with a blank for every value that it binds. What is updated stays as it is, and so
do the values in the constraints of a join. -/
def Update.blank (u : Update) : Update :=
  { u with
    assignments := u.assignments.map Assignment.blank
    filter := u.filter.map Expr.blank }

/-- The statements differ at most in the values that they bind. -/
def Update.SameButValues (u v : Update) : Prop := u.blank = v.blank

/-! ### Pieces -/

def Piece.blank : Piece → Piece
  | .argument a => .argument a.blank
  | p => p

theorem textOf_map_blank (d : Dialect) (ps : List Piece) :
    textOf d .prepared (ps.map Piece.blank) = textOf d .prepared ps := by
  induction ps with
  | nil => rfl
  | cons p ps ih =>
    rw [List.map_cons, textOf_cons, textOf_cons, ih]
    cases p <;> rfl

theorem argumentsOf_map_blank (ps : List Piece) :
    argumentsOf (ps.map Piece.blank) = (argumentsOf ps).map Argument.blank := by
  induction ps with
  | nil => rfl
  | cons p ps ih => cases p <;> simp [Piece.blank, ih]

/-- Pieces that bind nothing have no value to replace. -/
theorem map_blank_of_argumentsOf {ps : List Piece} (h : argumentsOf ps = []) :
    ps.map Piece.blank = ps := by
  induction ps with
  | nil => rfl
  | cons p ps ih => cases p <;> simp_all [Piece.blank]

@[simp] theorem map_blank_separated (separator : String) (pss : List (List Piece)) :
    (separated separator pss).map Piece.blank
      = separated separator (pss.map (List.map Piece.blank)) := by
  induction pss with
  | nil => rfl
  | cons ps pss ih =>
    cases pss with
    | nil => rfl
    | cons qs pss =>
      rw [separated, List.map_append, List.map_cons, ih]
      rfl

@[simp] theorem map_blank_parenthesizedIf (needed : Bool) (ps : List Piece) :
    (parenthesizedIf needed ps).map Piece.blank = parenthesizedIf needed (ps.map Piece.blank) := by
  cases needed <;> simp [parenthesizedIf, parenthesized, Piece.blank]

/-! ### Expressions -/

namespace Expr

@[simp] theorem isBinary_blank (e : Expr) : e.blank.isBinary = e.isBinary := by
  cases e <;> rfl

@[simp] theorem needsParens_blank (parent : BinaryOp) (e : Expr) :
    e.blank.needsParens parent = e.needsParens parent := by
  cases e <;> rfl

@[simp] theorem isDisjunction_blank (e : Expr) : e.blank.isDisjunction = e.isDisjunction := by
  cases e with
  | binary op e f => cases op <;> rfl
  | _ => rfl

mutual
/-- Where parentheses stand depends on the operators alone, so blanks change the arguments only. -/
theorem pieces_blank : (e : Expr) → e.blank.pieces = e.pieces.map Piece.blank
  | .column _ | .argument _ | .raw _ => rfl
  | .binary _ e f => by
    simp [blank, pieces, pieces_blank e, pieces_blank f, Piece.blank]
  | .not e | .isNull _ e => by simp [blank, pieces, pieces_blank e, Piece.blank]
  | .inList _ e items => by
    simp [blank, pieces, pieces_blank e, itemPieces_blank items, Piece.blank]
  | .between _ e low high => by
    simp [blank, pieces, pieces_blank e, pieces_blank low, pieces_blank high, Piece.blank]
  | .paren e => by
    simp [blank, pieces, pieces_blank e, parenthesized, Piece.blank]

theorem itemPieces_blank :
    (es : List Expr) → itemPieces (blankItems es) = (itemPieces es).map (List.map Piece.blank)
  | [] => rfl
  | e :: es => by simp [blankItems, itemPieces, pieces_blank e, itemPieces_blank es]
end

theorem arguments_blank (e : Expr) : e.blank.arguments = e.arguments.map Argument.blank := by
  rw [← argumentsOf_pieces, pieces_blank, argumentsOf_map_blank, argumentsOf_pieces]

theorem argumentCount_blank (e : Expr) : e.blank.argumentCount = e.argumentCount := by
  rw [← length_arguments, arguments_blank, List.length_map, length_arguments]

end Expr

/-! ### Clauses -/

theorem valuePieces_blank (a : Assignment) :
    a.blank.valuePieces = a.valuePieces.map Piece.blank := by
  obtain ⟨c, v | e⟩ := a
  · rfl
  · exact e.pieces_blank

@[simp] theorem setPieces_blank (qualified : Bool) (as : List Assignment) :
    setPieces qualified (as.map Assignment.blank) = (setPieces qualified as).map Piece.blank := by
  have hname (c : Column) :
      (assignedName qualified c).map Piece.blank = assignedName qualified c :=
    map_blank_of_argumentsOf (argumentsOf_assignedName qualified c)
  have hcolumn (a : Assignment) : a.blank.column = a.column := rfl
  simp [setPieces, Function.comp_def, valuePieces_blank, hcolumn, hname, Piece.blank]

@[simp] theorem wherePieces_blank (filter : Option Expr) :
    wherePieces (filter.map Expr.blank) = (wherePieces filter).map Piece.blank := by
  cases filter with
  | none => rfl
  | some e => simp [wherePieces, e.pieces_blank, Piece.blank]

@[simp] theorem conjunctPieces_blank (e : Expr) :
    conjunctPieces e.blank = (conjunctPieces e).map Piece.blank := by
  simp [conjunctPieces, e.pieces_blank]

@[simp] theorem map_blank_rownumPieces (n : Nat) :
    (rownumPieces n).map Piece.blank = rownumPieces n :=
  map_blank_of_argumentsOf (argumentsOf_rownumPieces n)

@[simp] theorem map_blank_topPieces (n : Option Nat) :
    (topPieces n).map Piece.blank = topPieces n :=
  map_blank_of_argumentsOf (argumentsOf_topPieces n)

@[simp] theorem map_blank_rownumClause (n : Option Nat) :
    (rownumClause n).map Piece.blank = rownumClause n :=
  map_blank_of_argumentsOf (argumentsOf_rownumClause n)

theorem tablePieces_blank (t : Table) (limit : Option (LimitStyle × Nat)) (as : List Assignment)
    (filter : Option Expr) :
    tablePieces t limit (as.map Assignment.blank) (filter.map Expr.blank)
      = (tablePieces t limit as filter).map Piece.blank := by
  obtain _ | ⟨_ | _ | _, n⟩ := limit
  · simp [tablePieces, Piece.blank]
  · simp [tablePieces, Piece.blank, numberPiece]
  · simp [tablePieces, Piece.blank]
  · cases filter with
    | none => simp [tablePieces, Piece.blank]
    | some e => simp [tablePieces, Piece.blank]

@[simp] theorem joinedWherePieces_blank (j : Join) (filter : Option Expr) :
    joinedWherePieces j (filter.map Expr.blank)
      = (joinedWherePieces j filter).map Piece.blank := by
  have hconditions : (joinConditions j).map (List.map Piece.blank) = joinConditions j := by
    rw [joinConditions, List.map_map]
    exact List.map_congr_left fun p _ => map_blank_of_argumentsOf (argumentsOf_conditionPieces p)
  unfold joinedWherePieces
  split
  · exact wherePieces_blank filter
  · cases filter <;> simp [hconditions, Piece.blank]

/-! ### Views -/

theorem aliased_blank (n : Nat) (as : List Assignment) :
    aliased n (as.map Assignment.blank) = (aliased n as).map fun c => (c.1, c.2.blank) := by
  induction as generalizing n with
  | nil => rfl
  | cons a as ih =>
    have hwidth : a.blank.width = a.width := by
      obtain ⟨c, v | e⟩ := a <;> rfl
    rw [List.map_cons, aliased, hwidth, ih]
    rfl

theorem selectPieces_blank (n : Nat) (a : Assignment) :
    selectPieces n a.blank = (selectPieces n a).map Piece.blank := by
  have hname (c : Column) : (Piece.qualified c).map Piece.blank = Piece.qualified c := rfl
  obtain ⟨c, v | e⟩ := a
  · simp [selectPieces, Assignment.blank, Assigned.blank, hname, Piece.blank, aliasPiece]
  · simp [selectPieces, Assignment.blank, Assigned.blank, hname, Piece.blank, aliasPiece,
      e.pieces_blank]

theorem viewSetPieces_blank (n : Nat) (a : Assignment) :
    viewSetPieces n a.blank = (viewSetPieces n a).map Piece.blank := by
  obtain ⟨c, v | e⟩ := a <;> rfl

/-! ### Statements -/

/-- A form does not mention any value to be bound, so the pieces of a planned statement change at
the arguments only. -/
theorem Plan.pieces_blank (form : Form) (as : List Assignment) (filter : Option Expr) :
    Plan.pieces ⟨form, as.map Assignment.blank, filter.map Expr.blank⟩
      = (Plan.pieces ⟨form, as, filter⟩).map Piece.blank := by
  cases form with
  | table t limit => exact tablePieces_blank t limit as filter
  | list j =>
    have hjoin := map_blank_of_argumentsOf (argumentsOf_joinPieces j)
    simp [Plan.pieces, hjoin, Piece.blank]
  | «from» t j qualified top =>
    have hfrom := map_blank_of_argumentsOf (argumentsOf_fromPieces t j)
    simp [Plan.pieces, hfrom, Piece.blank]
  | merge t source part =>
    have hon := map_blank_of_argumentsOf (argumentsOf_mergeConditions part)
    simp [Plan.pieces, hon, Piece.blank]
  | view j limit =>
    have hjoin := map_blank_of_argumentsOf (argumentsOf_joinPieces j)
    simp [Plan.pieces, hjoin, aliased_blank, Function.comp_def, selectPieces_blank,
      viewSetPieces_blank, Piece.blank]

theorem foreignColumn?_blank (j : Join) (as : List Assignment) :
    foreignColumn? j (as.map Assignment.blank) = foreignColumn? j as := by
  rw [foreignColumn?, List.map_map]
  rfl

theorem commonTable?_blank (j : Join) (as : List Assignment) :
    commonTable? j (as.map Assignment.blank) = commonTable? j as := by
  cases as with
  | nil => rfl
  | cons a as =>
    rw [List.map_cons, commonTable?, List.all_map]
    rfl

theorem updatedTable_blank (d : Dialect) (j : Join) (as : List Assignment) :
    updatedTable d j (as.map Assignment.blank) = updatedTable d j as := by
  rw [updatedTable, requireJoined, foreignColumn?_blank, commonTable?_blank]
  rfl

/-- The check of a view counts arguments; it does not look at them. -/
theorem boundExpression?_blank (as : List Assignment) :
    boundExpression? (as.map Assignment.blank) = boundExpression? as := by
  rw [boundExpression?, List.findSome?_map, boundExpression?]
  congr 1
  funext a
  obtain ⟨c, v | e⟩ := a
  · rfl
  · simp [Assignment.blank, Assigned.blank, e.argumentCount_blank]

theorem planTarget_blank (d : Dialect) (t : Target) (as : List Assignment) (limit : Option Nat) :
    planTarget d t (as.map Assignment.blank) limit = planTarget d t as limit := by
  cases t with
  | table t => rfl
  | join j =>
    show planJoin d j _ limit = planJoin d j as limit
    simp only [planJoin, requireJoined, foreignColumn?_blank, updatedTable_blank,
      boundExpression?_blank]
  | aliased t name => rfl
  | subquery sql name => rfl

theorem compile_blank (ctx : Context) (u : Update) : u.blank.compile ctx = u.compile ctx := by
  rw [Update.compile, Update.compile, map_text_render, map_text_render]
  simp only [Update.blank, List.isEmpty_map, planTarget_blank, Plan.pieces_blank, textOf_map_blank]

theorem argumentList_blank (ctx : Context) (u : Update) :
    u.blank.argumentList ctx = (u.argumentList ctx).map Argument.blank := by
  have hassigned : u.blank.assignedArguments = u.assignedArguments.map Argument.blank := by
    simp only [Update.assignedArguments, Update.blank, List.flatMap_map, List.map_flatMap,
      ← argumentsOf_valuePieces, valuePieces_blank, argumentsOf_map_blank]
  have hfilter : u.blank.filterArguments = u.filterArguments.map Argument.blank := by
    rw [Update.filterArguments, Update.filterArguments]
    cases hf : u.filter with
    | none => simp [Update.blank, hf]
    | some e => simp [Update.blank, hf, e.arguments_blank]
  have hfirst : u.blank.filterFirst ctx = u.filterFirst ctx := rfl
  rw [Update.argumentList, Update.argumentList, hfirst, hassigned, hfilter]
  split <;> rw [List.map_append]

/-- The types of the arguments, batch by batch. -/
def Update.argumentTypes (ctx : Context) (u : Update) : List (List ColumnType) :=
  (u.arguments ctx).map (List.map Argument.type)

theorem argumentTypes_blank (ctx : Context) (u : Update) :
    u.blank.argumentTypes ctx = u.argumentTypes ctx := by
  rw [Update.argumentTypes, Update.argumentTypes, arguments_eq, arguments_eq, argumentList_blank]
  cases u.argumentList ctx with
  | nil => rfl
  | cons a as => simp [Argument.blank]

/-- **Compiled texts do not depend on bound values.** Two statements that differ at most in the
values that they bind have the same text with placeholders, or are refused for the same reason, and
their arguments agree in number and in type, one by one. -/
theorem compile_eq_of_sameButValues (ctx : Context) {u v : Update} (h : u.SameButValues v) :
    u.compile ctx = v.compile ctx ∧ u.argumentTypes ctx = v.argumentTypes ctx := by
  constructor
  · rw [← compile_blank ctx u, ← compile_blank ctx v, h]
  · rw [← argumentTypes_blank ctx u, ← argumentTypes_blank ctx v, h]

/-- A statement that binds a value in an assignment, in an expression and in its condition. -/
def visitsExample (name step id : Value) : Update where
  target := .table (.empty "users")
  assignments := [⟨⟨"users", "name", .varchar⟩, .value name⟩,
    ⟨⟨"users", "visits", .integer⟩, .expr (Column.compare ⟨"users", "visits", .integer⟩ .add step)⟩]
  filter := some ((Column.inList ⟨"users", "id", .integer⟩ [id]).or
    (Column.isNull ⟨"users", "id", .integer⟩))
  limit := some 3

theorem compile_eq_of_sameButValues_visitsExample :
    let u := visitsExample .null (.int 1) (.text "x' OR 1 = 1; --")
    let v := visitsExample (.text "?") (.float Binary64.nan) (.blob [0, 255])
    u.SameButValues v ∧ (∃ sql, u.compile (.of .oracle) = .ok sql ∧
      v.compile (.of .oracle) = .ok sql) ∧
      u.argumentTypes (.of .oracle) = v.argumentTypes (.of .oracle) := by
  intro u v
  have hsame : u.SameButValues v := rfl
  obtain ⟨htext, htypes⟩ := compile_eq_of_sameButValues (.of .oracle) hsame
  exact ⟨hsame, ⟨_, rfl, htext.symm⟩, htypes⟩

end SqlUpdate
