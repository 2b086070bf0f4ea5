import SqlUpdate.Proofs.Statement.Forms
/-!
# A limit is written or refused

A statement with a limit is compared with the same statement without one. Either there is no place
for a cap on the rows, and the statement is refused, or its text is the text without the limit and
a cap in its place.

* `CapPlace`, `capPlace?` — the places of a cap, and where each dialect has one.
* `CapPlace.Adds` — two texts are equal but for the cap in its place.
* `planTarget_limited` — planning with a limit is planning without one, and then
  `Form.limited`.
* `adds_limited` — the texts of the two forms.
* `compile_limitTo_cases` — where there is a place for a cap, and `compile_limitTo_refused`, where
  there is none.
* `limit_never_dropped` — compiling with and without a limit.
-/

namespace SqlUpdate

/-! ### Places -/

/-- Where the cap on the rows stands in a statement. -/
inductive CapPlace where
  /-- At the end, as `LIMIT`. -/
  | behind
  /-- Behind the word `UPDATE`, as `TOP`. -/
  | front
  /-- At the end, as a condition on `ROWNUM`. -/
  | alone
  /-- At the end, as a condition on `ROWNUM` beside the condition on the rows. -/
  | beside (filter : Expr)

/-- Where a dialect caps the rows of an UPDATE of a relation. -/
def capPlace? (d : Dialect) (t : Target) (filter : Option Expr) : Option CapPlace :=
  match d, t, filter with
  | .generic, .table _, _ | .h2, .table _, _ | .mysql, .table _, _ | .mariadb, .table _, _ =>
    some .behind
  | .sqlserver, .table _, _ | .sqlserver, .join _, _ => some .front
  | .oracle, .table _, some e => some (.beside e)
  | .oracle, .table _, none | .oracle, .join _, _ => some .alone
  | _, _, _ => none

/-- The second text is the first one with a cap of `n` rows in its place. A condition on the rows
that is a disjunction is put between parentheses beside the cap. -/
def CapPlace.Adds (d : Dialect) (n : Nat) (sql capped : String) : CapPlace → Prop
  | .behind => capped = sql ++ " LIMIT " ++ Decimal.natural n
  | .front => ∃ rest, sql = "UPDATE " ++ rest ∧
      capped = "UPDATE " ++ "TOP(" ++ Decimal.natural n ++ ") " ++ rest
  | .alone => capped = sql ++ " WHERE ROWNUM <= " ++ Decimal.natural n
  | .beside e =>
    let condition := textOf d .prepared e.pieces
    let conjunct := if e.isDisjunction then "(" ++ condition ++ ")" else condition
    ∃ start, sql = start ++ " WHERE " ++ condition ∧
      capped = start ++ " WHERE " ++ conjunct ++ " AND ROWNUM <= " ++ Decimal.natural n

theorem Decimal.natural_injective {m n : Nat} (h : natural m = natural n) : m = n :=
  digits_injective (String.ofList_injective h)

/-- The cap can be read off the two texts. -/
theorem CapPlace.Adds.number_eq {d : Dialect} {m n : Nat} {sql capped : String} {place : CapPlace}
    (hm : place.Adds d m sql capped) (hn : place.Adds d n sql capped) : m = n := by
  apply Decimal.natural_injective
  cases place with
  | behind =>
    have heq : sql ++ " LIMIT " ++ Decimal.natural m = sql ++ " LIMIT " ++ Decimal.natural n :=
      hm.symm.trans hn
    exact (String.append_right_inj _).1 heq
  | front =>
    obtain ⟨rest, hsql, rfl⟩ := hm
    obtain ⟨rest', hsql', hcapped⟩ := hn
    obtain rfl : rest = rest' := (String.append_right_inj _).1 (hsql.symm.trans hsql')
    rw [String.append_left_inj, String.append_left_inj] at hcapped
    exact (String.append_right_inj _).1 hcapped
  | alone =>
    have heq : sql ++ " WHERE ROWNUM <= " ++ Decimal.natural m
        = sql ++ " WHERE ROWNUM <= " ++ Decimal.natural n := hm.symm.trans hn
    exact (String.append_right_inj _).1 heq
  | beside e =>
    obtain ⟨start, hsql, rfl⟩ := hm
    obtain ⟨start', hsql', hcapped⟩ := hn
    have hstart := hsql.symm.trans hsql'
    rw [String.append_left_inj, String.append_left_inj] at hstart
    rw [← hstart] at hcapped
    exact (String.append_right_inj _).1 hcapped

/-! ### Plans -/

/-- The form with a limit in the style of the dialect. -/
def Form.limited (d : Dialect) (n : Nat) : Form → Form
  | .table t _ => .table t (d.limitStyle?.map fun style => (style, n))
  | .from t j qualified _ => .from t j qualified (some n)
  | .view j _ => .view j (some n)
  | form => form

/-- The place of the cap on a table, by the style of the dialect. -/
def CapPlace.ofStyle (filter : Option Expr) : LimitStyle → CapPlace
  | .suffix => .behind
  | .top => .front
  | .rownum =>
    match filter with
    | none => .alone
    | some e => .beside e

theorem capPlace?_table (d : Dialect) (t : Table) (filter : Option Expr) :
    capPlace? d (.table t) filter = d.limitStyle?.map (CapPlace.ofStyle filter) := by
  cases d <;> cases filter <;> rfl

theorem capPlace?_join (d : Dialect) (j : Join) (filter : Option Expr) :
    capPlace? d (.join j) filter =
      match d.joinStyle with
      | .from _ true => some .front
      | .view => some .alone
      | _ => none := by
  cases d <;> rfl

theorem capPlace?_aliased (d : Dialect) (t : Table) (name : String) (filter : Option Expr) :
    capPlace? d (.aliased t name) filter = none := by
  cases d <;> rfl

theorem capPlace?_subquery (d : Dialect) (sql name : String) (filter : Option Expr) :
    capPlace? d (.subquery sql name) filter = none := by
  cases d <;> rfl

/-- Where there is a place for a cap, a limit does not change which checks are made. -/
theorem planTarget_limited {d : Dialect} {t : Target} {filter : Option Expr} {place : CapPlace}
    (h : capPlace? d t filter = some place) (as : List Assignment) (n : Nat) :
    planTarget d t as (some n) = (planTarget d t as none).map (Form.limited d n) := by
  cases t with
  | table t =>
    rw [capPlace?_table] at h
    obtain ⟨style, hstyle, -⟩ := Option.map_eq_some_iff.1 h
    show planTable d t (some n) = Except.ok (Form.limited d n (.table t none))
    rw [planTable, Form.limited, hstyle]
    rfl
  | join j =>
    rw [capPlace?_join] at h
    show planJoin d j as (some n) = (planJoin d j as none).map (Form.limited d n)
    unfold planJoin
    split at h
    · rename_i hs
      rw [hs]
      show (updatedTable d j as >>= _) = (updatedTable d j as >>= _).map _
      cases updatedTable d j as <;> rfl
    · rename_i hs
      rw [hs]
      show (updatedTable d j as >>= _) = (updatedTable d j as >>= _).map _
      cases updatedTable d j as with
      | error e => rfl
      | ok t => cases boundExpression? as <;> rfl
    · cases h
  | aliased t name => rw [capPlace?_aliased] at h; cases h
  | subquery sql name => rw [capPlace?_subquery] at h; cases h

/-- Without such a place, a limit is refused. -/
theorem planTarget_unlimited {d : Dialect} {t : Target} {filter : Option Expr}
    (h : capPlace? d t filter = none) (as : List Assignment) (n : Nat) :
    ∃ e, planTarget d t as (some n) = .error e := by
  cases t with
  | table t =>
    rw [capPlace?_table, Option.map_eq_none_iff] at h
    exact ⟨_, by rw [planTarget, planTable, h]⟩
  | join j =>
    rw [capPlace?_join] at h
    show ∃ e, planJoin d j as (some n) = .error e
    cases hs : d.joinStyle with
    | unsupported => exact ⟨_, by rw [planJoin, hs]⟩
    | list => exact ⟨_, by rw [planJoin, hs]; rfl⟩
    | «from» qualified top =>
      cases top with
      | false => exact ⟨_, by rw [planJoin, hs]; rfl⟩
      | true => rw [hs] at h; cases h
    | merge => exact ⟨_, by rw [planJoin, hs]; rfl⟩
    | view => rw [hs] at h; cases h
  | aliased t name => exact ⟨_, rfl⟩
  | subquery sql name => exact ⟨_, rfl⟩

/-! ### Texts -/

theorem textOf_topPieces (d : Dialect) (r : Reading) (n : Nat) :
    textOf d r (topPieces (some n)) = "TOP(" ++ Decimal.natural n ++ ") " := by
  simp [topPieces, numberPiece, Piece.text, String.append_assoc]

theorem textOf_rownumPieces (d : Dialect) (r : Reading) (n : Nat) :
    textOf d r (rownumPieces n) = "ROWNUM <= " ++ Decimal.natural n := by
  simp [rownumPieces, numberPiece, Piece.text]

theorem textOf_rownumClause (d : Dialect) (r : Reading) (n : Nat) :
    textOf d r (rownumClause (some n)) = " WHERE ROWNUM <= " ++ Decimal.natural n := by
  rw [rownumClause, textOf_cons, textOf_rownumPieces, ← String.append_assoc]
  rfl

theorem textOf_andRownum (d : Dialect) (r : Reading) (n : Nat) :
    textOf d r (.sql " AND " :: rownumPieces n) = " AND ROWNUM <= " ++ Decimal.natural n := by
  rw [textOf_cons, textOf_rownumPieces, ← String.append_assoc]
  rfl

theorem textOf_append_where (d : Dialect) (r : Reading) (ps qs : List Piece) :
    textOf d r (ps ++ .sql " WHERE " :: qs) = textOf d r ps ++ " WHERE " ++ textOf d r qs := by
  rw [textOf_append, textOf_cons, String.append_assoc]
  rfl

theorem textOf_conjunctPieces (d : Dialect) (r : Reading) (e : Expr) :
    textOf d r (conjunctPieces e) =
      if e.isDisjunction then "(" ++ textOf d r e.pieces ++ ")" else textOf d r e.pieces := by
  rw [conjunctPieces, parenthesizedIf]
  split
  · simp [parenthesized, Piece.text, String.append_assoc]
  · rfl

theorem adds_tablePieces (d : Dialect) (t : Table) (as : List Assignment) (filter : Option Expr)
    (style : LimitStyle) (n : Nat) :
    (CapPlace.ofStyle filter style).Adds d n (textOf d .prepared (tablePieces t none as filter))
      (textOf d .prepared (tablePieces t (some (style, n)) as filter)) := by
  cases style with
  | suffix =>
    show textOf d .prepared (tablePieces t none as filter ++ [.sql " LIMIT ", numberPiece n]) = _
    rw [textOf_append, String.append_assoc]
    simp [numberPiece, Piece.text]
  | top =>
    refine ⟨textOf d .prepared (.name t.name :: setPieces false as ++ wherePieces filter), ?_, ?_⟩
    · rw [tablePieces, List.cons_append, textOf_cons]
      rfl
    · rw [tablePieces, List.cons_append, List.cons_append, textOf_cons, List.append_assoc,
        textOf_append, textOf_topPieces]
      simp only [Piece.text, List.cons_append, String.append_assoc]
  | rownum =>
    cases filter with
    | none =>
      show textOf d .prepared (.sql "UPDATE " :: .name t.name :: setPieces false as
        ++ rownumClause (some n)) = textOf d .prepared (_ ++ wherePieces none) ++ _ ++ _
      rw [textOf_append, textOf_rownumClause, wherePieces, List.append_nil, String.append_assoc]
    | some e =>
      refine ⟨textOf d .prepared (.sql "UPDATE " :: .name t.name :: setPieces false as), ?_, ?_⟩
      · exact textOf_append_where _ _ _ _
      · show textOf d .prepared (_ ++ .sql " WHERE " :: (conjunctPieces e ++ .sql " AND " ::
          rownumPieces n)) = _
        rw [textOf_append_where, textOf_append, textOf_conjunctPieces, textOf_andRownum]
        simp only [String.append_assoc]

/-- The text of a form with a limit, from the text of the form without one. -/
theorem adds_limited {d : Dialect} {t : Target} {filter : Option Expr} {place : CapPlace}
    (h : capPlace? d t filter = some place) {as : List Assignment} {form : Form}
    (hform : planTarget d t as none = .ok form) (n : Nat) :
    place.Adds d n (textOf d .prepared (Plan.pieces ⟨form, as, filter⟩))
      (textOf d .prepared (Plan.pieces ⟨form.limited d n, as, filter⟩)) := by
  obtain ⟨t, rfl, hform⟩ | ⟨j, rfl, hform⟩ := planTarget_eq_ok hform
  · rw [capPlace?_table] at h
    obtain ⟨style, hstyle, rfl⟩ := Option.map_eq_some_iff.1 h
    obtain rfl : Form.table t none = form := Except.ok.inj hform
    rw [Form.limited, hstyle]
    exact adds_tablePieces d t as filter style n
  · rw [capPlace?_join] at h
    cases planJoin_eq_ok hform with
    | list hs => rw [hs] at h; cases h
    | @«from» qualified top t hs =>
      rw [hs] at h
      cases top with
      | false => cases h
      | true =>
        obtain rfl : CapPlace.front = place := Option.some.inj h
        refine ⟨textOf d .prepared (.name t.name :: setPieces qualified as ++ fromPieces t j
          ++ joinedWherePieces j filter), ?_, ?_⟩
        · simp [Plan.pieces, topPieces, Piece.text]
        · simp only [Plan.pieces, Form.limited, List.cons_append, List.append_assoc, textOf_cons,
            textOf_append, textOf_topPieces, Piece.text, String.append_assoc]
    | merge hs => rw [hs] at h; cases h
    | view hs =>
      rw [hs] at h
      obtain rfl : CapPlace.alone = place := Option.some.inj h
      have hpieces : Plan.pieces ⟨.view j (some n), as, filter⟩
          = Plan.pieces ⟨.view j none, as, filter⟩ ++ rownumClause (some n) := by
        simp [Plan.pieces, rownumClause]
      show textOf d .prepared (Plan.pieces ⟨.view j (some n), as, filter⟩) = _
      rw [hpieces, textOf_append, textOf_rownumClause, String.append_assoc]

/-! ### Statements -/

/-- Where there is a place for a cap, a statement compiles with a limit exactly if it does without
one, and fails for the same reason otherwise. -/
theorem compile_limitTo_cases {ctx : Context} {u : Update} {place : CapPlace}
    (hnone : u.limit = none)
    (h : capPlace? (ctx.dialectOf u.target) u.target u.filter = some place) (n : Nat) :
    (∃ e, u.compile ctx = .error e ∧ (u.limitTo n).compile ctx = .error e) ∨
      ∃ sql capped, u.compile ctx = .ok sql ∧ (u.limitTo n).compile ctx = .ok capped ∧
        place.Adds (ctx.dialectOf u.target) n sql capped := by
  have hplain := map_text_render ctx u .prepared
  have hlimited := map_text_render ctx (u.limitTo n) .prepared
  rw [hnone] at hplain
  -- both statements have the same assignments, so they pass or fail the first check together
  by_cases hempty : u.assignments.isEmpty = true
  · exact .inl ⟨_, hplain.trans (if_pos hempty), hlimited.trans (if_pos hempty)⟩
  · have hplain := hplain.trans (if_neg hempty)
    have hlimited := hlimited.trans (if_neg hempty)
    have hplan := planTarget_limited h u.assignments n
    cases hform : planTarget (ctx.dialectOf u.target) u.target u.assignments none with
    | error e =>
      rw [hform] at hplain hplan
      exact .inl ⟨e, hplain, hlimited.trans (congrArg (Except.map _) hplan)⟩
    | ok form =>
      rw [hform] at hplain hplan
      exact .inr ⟨_, _, hplain, hlimited.trans (congrArg (Except.map _) hplan),
        adds_limited h hform n⟩

/-- The dialects that know no cap, for all relations or for joins only. -/
def Dialect.LacksCap (d : Dialect) (t : Target) : Prop :=
  d ∈ [.postgresql, .sqlite] ∨ ((∃ j, t = .join j) ∧ d ∈ [.mysql, .mariadb, .h2])

theorem capPlace?_of_lacksCap {d : Dialect} {t : Target} (h : d.LacksCap t)
    (filter : Option Expr) : capPlace? d t filter = none := by
  simp only [Dialect.LacksCap, List.mem_cons, List.not_mem_nil, or_false] at h
  obtain (rfl | rfl) | ⟨⟨j, rfl⟩, rfl | rfl | rfl⟩ := h <;> rfl

/-- A dialect that knows a cap, but has no place for it, does not update the relation at all. -/
theorem planTarget_eq_error_of_not_lacksCap {d : Dialect} {t : Target} {filter : Option Expr}
    (h : capPlace? d t filter = none) (hknown : ¬ d.LacksCap t) (as : List Assignment)
    (limit : Option Nat) : ∃ e, planTarget d t as limit = .error e := by
  cases t with
  | table t =>
    rw [capPlace?_table, Option.map_eq_none_iff] at h
    cases d with
    | postgresql | sqlite => exact absurd (.inl (by decide)) hknown
    | _ => cases h
  | join j =>
    rw [capPlace?_join] at h
    cases d with
    | generic => exact ⟨_, rfl⟩
    | postgresql | sqlite => exact absurd (.inl (by decide)) hknown
    | mysql | mariadb | h2 => exact absurd (.inr ⟨⟨j, rfl⟩, by decide⟩) hknown
    | oracle | sqlserver => cases h
  | aliased t name => exact ⟨_, rfl⟩
  | subquery sql name => exact ⟨_, rfl⟩

/-- A statement whose form cannot be planned does not compile. -/
theorem compile_eq_error_of_planTarget {ctx : Context} {u : Update}
    (h : ∃ e, planTarget (ctx.dialectOf u.target) u.target u.assignments u.limit = .error e) :
    ∃ e, u.compile ctx = .error e := by
  obtain ⟨e, he⟩ := h
  rw [Update.compile, map_text_render, he]
  split <;> exact ⟨_, rfl⟩

theorem compile_limitTo_refused {ctx : Context} {u : Update}
    (h : capPlace? (ctx.dialectOf u.target) u.target u.filter = none) (n : Nat) :
    ∃ e, (u.limitTo n).compile ctx = .error e :=
  compile_eq_error_of_planTarget (planTarget_unlimited h u.assignments n)

/-- What compiles with a limit has its cap. -/
theorem compile_limitTo_eq_ok {ctx : Context} {u : Update} (hnone : u.limit = none) {n : Nat}
    {capped : String} (h : (u.limitTo n).compile ctx = .ok capped) : ∃ place sql,
      capPlace? (ctx.dialectOf u.target) u.target u.filter = some place ∧
        u.compile ctx = .ok sql ∧ place.Adds (ctx.dialectOf u.target) n sql capped := by
  cases hplace : capPlace? (ctx.dialectOf u.target) u.target u.filter with
  | none =>
    obtain ⟨e, he⟩ := compile_limitTo_refused hplace n
    cases he.symm.trans h
  | some place =>
    obtain ⟨e, -, he⟩ | ⟨sql, capped', hsql, hcapped, hadds⟩ := compile_limitTo_cases hnone hplace n
    · cases he.symm.trans h
    · obtain rfl : capped' = capped := Except.ok.inj (hcapped.symm.trans h)
      exact ⟨place, sql, rfl, hsql, hadds⟩

theorem compile_limitTo_eq_error_iff (ctx : Context) {u : Update} (hnone : u.limit = none)
    (n : Nat) : (∃ e, (u.limitTo n).compile ctx = .error e) ↔
      (ctx.dialectOf u.target).LacksCap u.target ∨ ∃ e, u.compile ctx = .error e := by
  cases hplace : capPlace? (ctx.dialectOf u.target) u.target u.filter with
  | none =>
    refine iff_of_true (compile_limitTo_refused hplace n) ?_
    by_cases hlacks : (ctx.dialectOf u.target).LacksCap u.target
    · exact .inl hlacks
    · exact .inr (compile_eq_error_of_planTarget
        (planTarget_eq_error_of_not_lacksCap hplace hlacks _ _))
  | some place =>
    have hlacks : ¬ (ctx.dialectOf u.target).LacksCap u.target := fun h => by
      rw [capPlace?_of_lacksCap h] at hplace
      cases hplace
    obtain ⟨e, he, hn⟩ | ⟨sql, capped, hsql, hn, -⟩ := compile_limitTo_cases hnone hplace n
    · exact iff_of_true ⟨e, hn⟩ (.inr ⟨e, he⟩)
    · refine iff_of_false (fun ⟨e, he⟩ => ?_) (not_or.2 ⟨hlacks, fun ⟨e, he⟩ => ?_⟩)
      · cases he.symm.trans hn
      · cases he.symm.trans hsql

theorem limit_eq_of_compile_eq {ctx : Context} {u : Update} (hnone : u.limit = none) {m n : Nat}
    {sql : String} (hm : (u.limitTo m).compile ctx = .ok sql)
    (hn : (u.limitTo n).compile ctx = .ok sql) : m = n := by
  obtain ⟨place, base, hplace, hbase, hadds⟩ := compile_limitTo_eq_ok hnone hm
  obtain ⟨place', base', hplace', hbase', hadds'⟩ := compile_limitTo_eq_ok hnone hn
  obtain rfl : place = place' := Option.some.inj (hplace.symm.trans hplace')
  obtain rfl : base = base' := Except.ok.inj (hbase.symm.trans hbase')
  exact hadds.number_eq hadds'

/-- **A limit is never dropped.** Take a statement without a limit. With a limit it has the text of
the statement without one and a cap with this number in its place, or it is refused. It is refused
only by the dialects that know no cap, or if it is refused without a limit too. Different limits
give different texts, and no limit changes the arguments. -/
theorem limit_never_dropped (ctx : Context) {u : Update} (hnone : u.limit = none) :
    let d := ctx.dialectOf u.target
    (∀ n capped, (u.limitTo n).compile ctx = .ok capped → ∃ place sql,
      capPlace? d u.target u.filter = some place ∧ u.compile ctx = .ok sql ∧
        place.Adds d n sql capped) ∧
    (∀ n, (∃ e, (u.limitTo n).compile ctx = .error e) ↔
      d.LacksCap u.target ∨ ∃ e, u.compile ctx = .error e) ∧
    (∀ m n sql, (u.limitTo m).compile ctx = .ok sql → (u.limitTo n).compile ctx = .ok sql →
      m = n) ∧
    ∀ n, (u.limitTo n).arguments ctx = u.arguments ctx := by
  intro d
  refine ⟨fun n capped h => ?_, fun n => ?_, fun m n sql hm hn => ?_, fun n => rfl⟩
  · exact compile_limitTo_eq_ok hnone h
  · exact compile_limitTo_eq_error_iff ctx hnone n
  · exact limit_eq_of_compile_eq hnone hm hn

/-- A statement whose condition is a disjunction. -/
def eitherExample : Update where
  target := .table (.empty "t")
  assignments := [⟨⟨"t", "a", .varchar⟩, .value (.text "x")⟩]
  filter := some
    ((Column.isNull ⟨"t", "a", .varchar⟩).or (Column.compare ⟨"t", "b", .integer⟩ .eq .null))
  limit := none

/-- Without parentheses the cap would belong to the last part of the disjunction alone. -/
theorem limit_never_dropped_eitherExample :
    let capped := "UPDATE t SET a = ? WHERE (t.a IS NULL OR t.b = ?) AND ROWNUM <= 5"
    eitherExample.limit = none ∧ (eitherExample.limitTo 5).compile (.of .oracle) = .ok capped ∧
      ∃ place sql, capPlace? .oracle eitherExample.target eitherExample.filter = some place ∧
        eitherExample.compile (.of .oracle) = .ok sql ∧ place.Adds .oracle 5 sql capped := by
  intro capped
  have hcapped : (eitherExample.limitTo 5).compile (.of .oracle) = .ok capped := rfl
  exact ⟨rfl, hcapped, (limit_never_dropped (.of .oracle) rfl).1 5 capped hcapped⟩

end SqlUpdate
