import SqlUpdate.Proofs.Binding.Order
import SqlUpdate.Proofs.Statement.AssignedColumns
import SqlUpdate.Proofs.Statement.RowLimit
/-!
# How an UPDATE of a view is wired

An UPDATE of a view selects the assigned columns and the expressions that they are set to, gives
each a number, and assigns by these numbers. Numbers are counted in one place and used in two.

* `viewColumns`, `separated_selectPieces` — the selected columns one by one, with their numbers.
* `aliased_append`, `viewColumns_append` — the number of an assignment is counted from the ones
  before it.
* `update_view` — every column is assigned what was selected for it, and nothing selected binds an
  argument.
-/

namespace SqlUpdate

/-! ### Lists with separators -/

/-- Separating lists that are separated themselves is separating what is in them. -/
theorem separated_map_separated (separator : String) {α : Type} (f : α → List (List Piece))
    {l : List α} (h : ∀ x ∈ l, f x ≠ []) :
    separated separator (l.map fun x => separated separator (f x))
      = separated separator (l.flatMap f) := by
  induction l with
  | nil => rfl
  | cons x l ih =>
    cases l with
    | nil => simp [separated]
    | cons y l =>
      have hrest := ih fun z hz => h z (List.mem_cons_of_mem x hz)
      have hne : (y :: l).flatMap f ≠ [] := by
        rw [List.flatMap_cons]
        exact List.append_ne_nil_of_left_ne_nil (h y (by simp)) _
      rw [List.flatMap_cons, separated_append separator (h x List.mem_cons_self) hne, ← hrest]
      rfl

/-! ### The columns of a view -/

/-- The column is set to an expression. -/
def Assignment.isExpression (a : Assignment) : Bool :=
  match a.assigned with
  | .value _ => false
  | .expr _ => true

theorem Assignment.width_pos (a : Assignment) : 0 < a.width := by
  obtain ⟨c, v | e⟩ := a
  · exact Nat.one_pos
  · exact Nat.two_pos

/-- How many columns of a view assignments take. -/
def widthOf (as : List Assignment) : Nat := as.length + as.countP Assignment.isExpression

theorem widthOf_cons (a : Assignment) (as : List Assignment) :
    widthOf (a :: as) = a.width + widthOf as := by
  obtain ⟨c, v | e⟩ := a <;>
    simp [widthOf, Assignment.width, Assignment.isExpression, List.countP_cons] <;> omega

/-- What is selected for an assignment, with the numbers that it is called by. -/
def viewColumnsOf (n : Nat) (a : Assignment) : List (List Piece × Nat) :=
  (Piece.qualified a.column, n) ::
    match a.assigned with
    | .value _ => []
    | .expr e => [(e.pieces, n + 1)]

/-- All that is selected for assignments, numbered from a number on. -/
def viewColumns (n : Nat) (as : List Assignment) : List (List Piece × Nat) :=
  (aliased n as).flatMap fun c => viewColumnsOf c.1 c.2

theorem viewColumns_cons (n : Nat) (a : Assignment) (as : List Assignment) :
    viewColumns n (a :: as) = viewColumnsOf n a ++ viewColumns (n + a.width) as := rfl

theorem length_viewColumnsOf (n : Nat) (a : Assignment) :
    (viewColumnsOf n a).length = a.width := by
  obtain ⟨c, v | e⟩ := a <;> rfl

theorem length_viewColumns (n : Nat) (as : List Assignment) :
    (viewColumns n as).length = widthOf as := by
  induction as generalizing n with
  | nil => rfl
  | cons a as ih =>
    rw [viewColumns_cons, List.length_append, length_viewColumnsOf, ih, widthOf_cons]

/-- The numbers of an assignment are counted on from those of the assignments before it. -/
theorem aliased_append (n : Nat) (as bs : List Assignment) :
    aliased n (as ++ bs) = aliased n as ++ aliased (n + widthOf as) bs := by
  induction as generalizing n with
  | nil => rfl
  | cons a as ih =>
    rw [List.cons_append, aliased, ih, aliased, List.cons_append, widthOf_cons, Nat.add_assoc]

theorem viewColumns_append (n : Nat) (as bs : List Assignment) :
    viewColumns n (as ++ bs) = viewColumns n as ++ viewColumns (n + widthOf as) bs := by
  rw [viewColumns, aliased_append, List.flatMap_append]
  rfl

theorem length_aliased (n : Nat) (as : List Assignment) : (aliased n as).length = as.length := by
  rw [← List.length_map (f := Prod.snd), map_snd_aliased]

/-- The numbers are used in order, and each once. -/
theorem numbers_viewColumns (n : Nat) (as : List Assignment) :
    (viewColumns n as).map Prod.snd = List.range' n (widthOf as) := by
  induction as generalizing n with
  | nil => rfl
  | cons a as ih =>
    have hfirst : (viewColumnsOf n a).map Prod.snd = List.range' n a.width := by
      obtain ⟨c, v | e⟩ := a <;> rfl
    rw [viewColumns_cons, List.map_append, hfirst, ih, widthOf_cons, ← List.range'_append_1]

/-- The number of an assignment behind others. -/
theorem getElem?_aliased (before : List Assignment) (a : Assignment) (after : List Assignment) :
    (aliased 0 (before ++ a :: after))[before.length]? = some (widthOf before, a) := by
  rw [aliased_append, List.getElem?_append_right (by rw [length_aliased]), length_aliased,
    Nat.sub_self, Nat.zero_add]
  rfl

/-- What is selected for an assignment behind others. -/
theorem getElem?_viewColumns (before : List Assignment) (a : Assignment) (after : List Assignment)
    {k : Nat} (hk : k < a.width) : (viewColumns 0 (before ++ a :: after))[widthOf before + k]?
      = (viewColumnsOf (widthOf before) a)[k]? := by
  rw [viewColumns_append, List.getElem?_append_right (by rw [length_viewColumns]; omega),
    length_viewColumns, Nat.add_sub_cancel_left, Nat.zero_add, viewColumns_cons,
    List.getElem?_append_left (by rwa [length_viewColumnsOf])]

/-- What is selected, column by column. -/
theorem separated_selectPieces (as : List Assignment) :
    separated ", " ((aliased 0 as).map fun c => selectPieces c.1 c.2)
      = separated ", " ((viewColumns 0 as).map fun c => c.1 ++ [.sql " ", aliasPiece c.2]) := by
  have hselect : ∀ (n : Nat) (a : Assignment), selectPieces n a = separated ", "
      ((viewColumnsOf n a).map fun c => c.1 ++ [.sql " ", aliasPiece c.2]) := by
    rintro n ⟨c, v | e⟩ <;> simp [selectPieces, viewColumnsOf, separated]
  simp only [hselect]
  rw [separated_map_separated ", " _ fun c _ => by simp [viewColumnsOf], viewColumns,
    List.map_flatMap]

/-! ### The wiring -/

/-- The name that a selected column is called by. -/
def viewAlias (n : Nat) : String := "c" ++ Decimal.natural n

theorem viewAlias_injective : Function.Injective viewAlias := by
  intro m n h
  refine Decimal.natural_injective ?_
  simpa [viewAlias, ← String.toList_inj] using h

/-- What an assignment binds, unless it is set to an expression. -/
def Assignment.boundValue? (a : Assignment) : Option Argument :=
  match a.assigned with
  | .value v => some ⟨a.column.type, v⟩
  | .expr _ => none

/-- The placeholder or the literal of a value. -/
def valueText (r : Reading) (v : Value) : String :=
  match r with
  | .prepared => "?"
  | .inlined => v.literal

/-- What an assignment with a number stands for on the right of `=`. -/
def viewValueText (r : Reading) (n : Nat) (a : Assignment) : String :=
  match a.assigned with
  | .value v => valueText r v
  | .expr _ => "x." ++ viewAlias (n + 1)

theorem textOf_viewSetPieces (d : Dialect) (r : Reading) (n : Nat) (a : Assignment) :
    textOf d r (viewSetPieces n a) = "x." ++ viewAlias n ++ " = " ++ viewValueText r n a := by
  obtain ⟨c, v | e⟩ := a
  · cases r <;>
      simp [viewSetPieces, aliasPiece, viewAlias, viewValueText, valueText, Piece.text,
        Assignment.valuePieces, placeholder, String.append_assoc]
  · simp [viewSetPieces, aliasPiece, viewAlias, viewValueText, Piece.text, String.append_assoc]

theorem arguments_of_noBoundExpression {as : List Assignment} (h : NoBoundExpression as) :
    as.flatMap Assignment.arguments = as.filterMap Assignment.boundValue? := by
  induction as with
  | nil => rfl
  | cons a as ih =>
    have hrest := ih fun b hb => h b (List.mem_cons_of_mem a hb)
    obtain ⟨c, v | e⟩ := a
    · simpa [Assignment.arguments, Assignment.boundValue?] using hrest
    · have he : e.arguments = [] := h _ List.mem_cons_self e rfl
      rw [List.flatMap_cons, List.filterMap_cons_none rfl, ← hrest]
      exact congrArg (· ++ as.flatMap Assignment.arguments) he

/-- What a view of a join takes: the assigned columns belong to one table of the join, and no
expression that is assigned holds an argument. -/
theorem update_join_eq_ok {b b' : Builder} {j : Join} {as : List Assignment} {limit : Option Nat}
    {filter : Option Expr} (hd : b.dialect = .oracle)
    (h : b.update (.join j) as limit filter = (.ok (), b')) :
    NoBoundExpression as ∧ b' = b.append (Plan.pieces ⟨.view j limit, as, filter⟩) := by
  rw [Builder.update] at h
  split at h
  · rename_i form hform
    have hplan : planJoin .oracle j as limit = .ok form := by
      rw [← hd]
      exact hform
    cases planJoin_eq_ok hplan with
    | view hs ht hbound =>
      exact ⟨noBoundExpression_of_eq_none hbound, (congrArg Prod.snd h).symm⟩
    | list hs => cases hs
    | «from» hs => cases hs
    | merge hs => cases hs
  · cases h

/-- **Every column is assigned what was selected for it.** If an UPDATE of a join is accepted in an
Oracle database, its text selects columns and assigns settings. The columns are called `c0`, `c1`
and so on, each once and in order, one for each assignment and one more for each expression. Behind
any assignments, the next one selects its column under the next name, and the setting in its place
assigns to that name: a value, or the name under which its own expression is selected next. What is
bound is what the condition holds and then the values, and nothing that is selected. -/
theorem update_view {b b' : Builder} {j : Join} {as : List Assignment} {limit : Option Nat}
    {filter : Option Expr} (hd : b.dialect = .oracle)
    (h : b.update (.join j) as limit filter = (.ok (), b')) :
    ∃ columns settings : List (String × String),
      b'.sql = b.sql ++ "UPDATE (SELECT "
        ++ ", ".intercalate (columns.map fun c => c.1 ++ " " ++ c.2)
        ++ " FROM " ++ textOf .oracle b.reading (j.pieces ++ wherePieces filter) ++ ") x SET "
        ++ ", ".intercalate (settings.map fun s => "x." ++ s.1 ++ " = " ++ s.2)
        ++ textOf .oracle b.reading (rownumClause limit) ∧
      columns.map Prod.snd
        = (List.range (as.length + as.countP Assignment.isExpression)).map viewAlias ∧
      (columns.map Prod.snd).Nodup ∧ settings.length = as.length ∧
      (∀ before a after, as = before ++ a :: after →
        let n := before.length + before.countP Assignment.isExpression
        columns[n]? = some (Dialect.oracle.qualified a.column.table a.column.name, viewAlias n) ∧
        match a.assigned with
        | .value v => settings[before.length]? = some (viewAlias n, valueText b.reading v)
        | .expr e => settings[before.length]? = some (viewAlias n, "x." ++ viewAlias (n + 1)) ∧
            columns[n + 1]? = some (textOf .oracle b.reading e.pieces, viewAlias (n + 1)) ∧
            e.arguments = []) ∧
      b'.arguments = b.arguments ++ match b.reading with
        | .prepared => filterArgumentsOf filter ++ as.filterMap Assignment.boundValue?
        | .inlined => [] := by
  obtain ⟨hbound, rfl⟩ := update_join_eq_ok hd h
  have hnumbers : (viewColumns 0 as).map Prod.snd = List.range (widthOf as) := by
    rw [numbers_viewColumns, List.range_eq_range']
  refine ⟨(viewColumns 0 as).map fun c => (textOf .oracle b.reading c.1, viewAlias c.2),
    (aliased 0 as).map fun c => (viewAlias c.1, viewValueText b.reading c.1 c.2), ?_, ?_, ?_, ?_,
    ?_, ?_⟩
  · rw [Builder.append, hd]
    show b.sql ++ textOf .oracle b.reading (Plan.pieces ⟨.view j limit, as, filter⟩) = _
    simp only [Plan.pieces, separated_selectPieces]
    simp [textOf_separated, textOf_viewSetPieces, Piece.text, aliasPiece, viewAlias,
      Function.comp_def, String.append_assoc]
  · rw [List.map_map, ← widthOf, ← hnumbers, List.map_map]
    rfl
  · have hnames : ((viewColumns 0 as).map Prod.snd).map viewAlias
        = (List.range (widthOf as)).map viewAlias := congrArg _ hnumbers
    rw [List.map_map] at hnames ⊢
    exact hnames ▸ List.nodup_range.map viewAlias_injective
  · rw [List.length_map, length_aliased]
  · rintro before a after rfl n
    have hcolumn := getElem?_viewColumns before a after (k := 0) a.width_pos
    have hsetting := getElem?_aliased before a after
    refine ⟨?_, ?_⟩
    · rw [List.getElem?_map]
      refine (congrArg (Option.map _) hcolumn).trans ?_
      simp [viewColumnsOf, textOf_qualified, n, widthOf]
    · rw [List.getElem?_map, hsetting]
      obtain ⟨c, v | e⟩ := a
      · rfl
      · -- The expression stands right behind its column, so it has the next number.
        have hvalue := getElem?_viewColumns before ⟨c, .expr e⟩ after (k := 1) Nat.one_lt_two
        refine ⟨rfl, ?_, hbound ⟨c, .expr e⟩ (by simp) e rfl⟩
        rw [List.getElem?_map]
        exact congrArg (Option.map _) hvalue
  · show b.arguments ++ boundArguments b.reading _ = _
    cases b.reading with
    | inlined => rfl
    | prepared => rw [boundArguments, argumentsOf_viewPieces j limit filter hbound,
        arguments_of_noBoundExpression hbound]

/-- Assignments to a value, to an expression, and to a value again. -/
def viewAssignments : List Assignment :=
  [⟨⟨"data", "num", .integer⟩, .value (.int 1)⟩,
    ⟨⟨"data", "total", .integer⟩, .expr (.binary .add (.column ⟨"data", "num", .integer⟩)
      (.column ⟨"users", "bonus", .integer⟩))⟩,
    ⟨⟨"data", "note", .varchar⟩, .value (.text "n")⟩]

/-- The last value is assigned under the number behind that of the expression. -/
theorem update_view_viewAssignments :
    let j := (Join.ofTable ⟨"users", []⟩).on .inner ⟨"data", []⟩ ⟨"users", "id", .integer⟩
      ⟨"data", "user_id", .integer⟩
    let b := (Builder.empty .oracle .prepared).update (.join j) viewAssignments none
      (some ((Column.mk "users" "id" .integer).compare .eq (.int 7)))
    b = (.ok (), b.2) ∧ b.2.sql =
      "UPDATE (SELECT data.num c0, data.total c1, data.num + users.bonus c2, data.note c3 "
        ++ "FROM users INNER JOIN data ON users.id = data.user_id WHERE users.id = ?) x "
        ++ "SET x.c0 = ?, x.c1 = x.c2, x.c3 = ?" ∧
    ∃ columns settings : List (String × String),
      columns.map Prod.snd = ["c0", "c1", "c2", "c3"] ∧
      columns[3]? = some ("data.note", "c3") ∧ settings[2]? = some ("c3", "?") := by
  intro j b
  have hb : b = (.ok (), b.2) := rfl
  refine ⟨hb, by decide +kernel, ?_⟩
  obtain ⟨columns, settings, -, hnames, -, -, hwired, -⟩ := update_view rfl hb
  have hlast := hwired (viewAssignments.take 2) ⟨⟨"data", "note", .varchar⟩, .value (.text "n")⟩ []
    rfl
  exact ⟨columns, settings, hnames, hlast⟩

end SqlUpdate
