import SqlUpdate.Proofs.Statement.AssignedColumns
import SqlUpdate.Proofs.Statement.Names
/-!
# Which vendors write the same

A dialect plays a part in a text by its quotes, by its style of limits and by its style of joins.
Where none of them is asked for, or where they are the same, vendors write the same statement.

* `Update.textIn` — the text of a statement in a dialect, or the error in its place.
* `textIn_table` — without a limit, the text of a statement on a table is its segments with the
  names between them in the quotes of the dialect.
* `textIn_eq_ok_congr` — dialects of the same styles and quotes are interchangeable.
* `textIn_from` — an UPDATE from other tables, with its assigned columns qualified or not.
* `vendors_agree` — which vendors agree on which relations.
-/

namespace SqlUpdate

/-! ### Texts in a dialect -/

/-- The text of a statement in a dialect, with placeholders or with literals. -/
def Update.textIn (r : Reading) (d : Dialect) (u : Update) : Except Error String :=
  match r with
  | .prepared => u.compile (.of d)
  | .inlined => u.inline (.of d)

theorem dialectOf_of (d : Dialect) (t : Target) : (Context.of d).dialectOf t = d := by
  cases d <;> cases t <;> rfl

theorem textIn_eq (r : Reading) (d : Dialect) (u : Update) :
    u.textIn r d = if u.assignments.isEmpty then .error .emptyAssignments
      else (planTarget d u.target u.assignments u.limit).map fun form =>
        textOf d r (Plan.pieces ⟨form, u.assignments, u.filter⟩) := by
  have h := map_text_render (.of d) u r
  rw [dialectOf_of] at h
  cases r <;> exact h

theorem textIn_eq_ok_iff {r : Reading} {d : Dialect} {u : Update} {sql : String} :
    u.textIn r d = .ok sql ↔ u.assignments.isEmpty = false ∧
      ∃ form, planTarget d u.target u.assignments u.limit = .ok form ∧
        textOf d r (Plan.pieces ⟨form, u.assignments, u.filter⟩) = sql := by
  rw [textIn_eq]
  cases u.assignments.isEmpty with
  | true => simp
  | false =>
    cases planTarget d u.target u.assignments u.limit <;> simp [Except.map]

/-! ### Tables -/

/-- Without a limit, the dialect is asked for its quotes alone. -/
theorem textIn_table (r : Reading) (d : Dialect) {u : Update} {t : Table}
    (htarget : u.target = .table t) (hlimit : u.limit = none) :
    let cut := nameSegments r (tablePieces t none u.assignments u.filter)
    u.textIn r d = if u.assignments.isEmpty then .error .emptyAssignments
      else .ok (filled cut.1 cut.2 ((u.tableNames t).map (quotedBy d.quote))) := by
  rw [textIn_eq, htarget, hlimit]
  show (if _ then _ else Except.ok (textOf d r (tablePieces t none u.assignments u.filter))) = _
  rw [textOf_eq_filled_names, namesOf_tablePieces]

/-! ### Dialects of the same styles -/

theorem planTarget_eq_ok_congr {d d' : Dialect} (hlimits : d.limitStyle? = d'.limitStyle?)
    (hjoins : d.joinStyle = d'.joinStyle) {t : Target} {as : List Assignment} {limit : Option Nat}
    {form : Form} (h : planTarget d t as limit = .ok form) :
    planTarget d' t as limit = .ok form := by
  have hupdated {j : Join} {t : Table} (h : updatedTable d j as = .ok t) :
      updatedTable d' j as = .ok t := updatedTable_eq_ok_iff.2 (updatedTable_eq_ok_iff.1 h)
  obtain ⟨t, rfl, h⟩ | ⟨j, rfl, h⟩ := planTarget_eq_ok h
  · obtain ⟨rfl, rfl⟩ | ⟨n, style, rfl, hstyle, rfl⟩ := planTable_eq_ok h
    · rfl
    · rw [hlimits] at hstyle
      show planTable d' t (some n) = _
      rw [planTable, hstyle]
  · refine JoinPlanned.planJoin_eq (d := d') ?_
    cases planJoin_eq_ok h with
    | list hs hnone hjoined => exact .list (hjoins ▸ hs) hnone hjoined
    | «from» hs hnone ht => exact .from (hjoins ▸ hs) hnone (hupdated ht)
    | merge hs hnone ht hp => exact .merge (hjoins ▸ hs) hnone (hupdated ht) hp
    | view hs ht hb => exact .view (hjoins ▸ hs) (hupdated ht) hb

/-- Dialects of the same styles and quotes are interchangeable, but for what they say when they
refuse a statement. -/
theorem textIn_eq_ok_congr (d d' : Dialect) (hquote : d.quote = d'.quote)
    (hlimits : d.limitStyle? = d'.limitStyle?) (hjoins : d.joinStyle = d'.joinStyle) (r : Reading)
    (u : Update) (sql : String) : u.textIn r d = .ok sql ↔ u.textIn r d' = .ok sql := by
  rw [textIn_eq_ok_iff, textIn_eq_ok_iff]
  refine and_congr_right fun _ => exists_congr fun form => and_congr ?_ ?_
  · exact ⟨planTarget_eq_ok_congr hlimits hjoins, planTarget_eq_ok_congr hlimits.symm hjoins.symm⟩
  · rw [textOf_congr_quote hquote]

/-! ### Updates from other tables -/

/-- A column alone or behind the name of its table, in double quotes where they are needed. -/
def columnText (qualified : Bool) (c : Column) : String :=
  if qualified then quotedBy '"' c.table ++ "." ++ quotedBy '"' c.name else quotedBy '"' c.name

/-- One of the assignments behind `SET`. -/
def Assignment.item (r : Reading) (qualified : Bool) (a : Assignment) : String :=
  columnText qualified a.column ++ " = " ++ textOf .postgresql r a.valuePieces

theorem textOf_assignedName (r : Reading) (qualified : Bool) (c : Column) :
    textOf .postgresql r (assignedName qualified c) = columnText qualified c := by
  cases qualified with
  | false => exact textOf_name _ _ _
  | true => exact textOf_qualified _ _ _

/-- What stands around the assignments does not depend on how their columns are written. -/
theorem textOf_from (r : Reading) (t : Table) (j : Join) (qualified : Bool) (as : List Assignment)
    (filter : Option Expr) :
    textOf .postgresql r (Plan.pieces ⟨.from t j qualified none, as, filter⟩)
      = "UPDATE " ++ quotedBy '"' t.name
        ++ " SET " ++ ", ".intercalate (as.map (Assignment.item r qualified))
        ++ textOf .postgresql r (fromPieces t j ++ joinedWherePieces j filter) := by
  have hitems : textOf .postgresql r (setPieces qualified as)
      = " SET " ++ ", ".intercalate (as.map (Assignment.item r qualified)) := by
    rw [textOf_setPieces_qualified]
    simp only [textOf_assignedName]
    rfl
  show textOf .postgresql r ((.sql "UPDATE " :: .name t.name :: setPieces qualified as)
    ++ fromPieces t j ++ joinedWherePieces j filter) = _
  rw [List.append_assoc, textOf_append, textOf_cons, textOf_cons, hitems, ← String.append_assoc,
    ← String.append_assoc]
  rfl

/-- Without a limit, an UPDATE from other tables is refused for the sake of its assignments only. -/
theorem textIn_from_eq_ok_iff {d : Dialect} {qualified top : Bool}
    (hs : d.joinStyle = .from qualified top) (hquote : d.quote = Dialect.postgresql.quote)
    {u : Update} {j : Join} (htarget : u.target = .join j) (hlimit : u.limit = none) (r : Reading)
    (sql : String) : u.textIn r d = .ok sql ↔ u.assignments.isEmpty = false ∧
      ∃ t, (requireJoined j u.assignments = .ok () ∧ commonTable? j u.assignments = some t) ∧
        textOf .postgresql r (Plan.pieces ⟨.from t j qualified none, u.assignments, u.filter⟩)
          = sql := by
  rw [textIn_eq_ok_iff, htarget, hlimit]
  simp only [textOf_congr_quote hquote]
  refine and_congr_right fun _ => ⟨?_, ?_⟩
  · rintro ⟨form, hform, hsql⟩
    cases planJoin_eq_ok hform with
    | «from» hstyle _ ht =>
      cases hs.symm.trans hstyle
      exact ⟨_, updatedTable_eq_ok_iff.1 ht, hsql⟩
    | list hstyle => cases hs.symm.trans hstyle
    | merge hstyle => cases hs.symm.trans hstyle
    | view hstyle => cases hs.symm.trans hstyle
  · rintro ⟨t, ht, hsql⟩
    exact ⟨_, (JoinPlanned.from hs (fun _ => rfl) (updatedTable_eq_ok_iff.2 ht)).planJoin_eq, hsql⟩

/-- Either both vendors refuse an UPDATE of a join that has no limit, or their texts differ in how
the assigned columns are written. -/
theorem textIn_sqlserver_cases {u : Update} {j : Join} (htarget : u.target = .join j)
    (hlimit : u.limit = none) (r : Reading) :
    (∃ e e', u.textIn r .postgresql = .error e ∧ u.textIn r .sqlserver = .error e') ∨
      ∃ front rest,
        u.textIn r .postgresql = .ok (front ++ " SET "
          ++ ", ".intercalate (u.assignments.map (Assignment.item r false)) ++ rest) ∧
        u.textIn r .sqlserver = .ok (front ++ " SET "
          ++ ", ".intercalate (u.assignments.map (Assignment.item r true)) ++ rest) := by
  have hpostgresql := textIn_from_eq_ok_iff (d := .postgresql) rfl rfl htarget hlimit r
  have hsqlserver := textIn_from_eq_ok_iff (d := .sqlserver) rfl rfl htarget hlimit r
  cases hp : u.textIn r .postgresql with
  | ok sql =>
    obtain ⟨hne, t, ht, -⟩ := (hpostgresql _).1 hp
    refine .inr ⟨_, _, hp.symm.trans ((hpostgresql _).2 ⟨hne, t, ht, textOf_from ..⟩), ?_⟩
    exact (hsqlserver _).2 ⟨hne, t, ht, textOf_from ..⟩
  | error e =>
    cases hq : u.textIn r .sqlserver with
    | error e' => exact .inl ⟨e, e', rfl, rfl⟩
    | ok sql =>
      obtain ⟨hne, t, ht, -⟩ := (hsqlserver _).1 hq
      cases hp.symm.trans ((hpostgresql _).2 ⟨hne, t, ht, rfl⟩)

/-! ### Statements -/

/-- The dialects that quote names by backticks. -/
def backtickDialects : List Dialect := [.mysql, .mariadb]

theorem quote_eq (d : Dialect) : d.quote = if d ∈ backtickDialects then '\x60' else '"' := by
  cases d <;> rfl

/-- **Vendors agree.** A statement on a table that has no limit is one text cut at its names, and
each of the vendors writes the names in its quotes into the cuts; without names that need quotes,
all texts are the same. On a join, MySQL and MariaDB accept the same statements and write them the
same, and so do PostgreSQL and SQLite. Without a limit SQL Server accepts what PostgreSQL accepts,
and writes the same but for the tables in front of the assigned columns. -/
theorem vendors_agree (u : Update) (r : Reading) :
    (∀ t, u.target = .table t → u.limit = none →
      (∃ first rest, rest.length = (u.tableNames t).length ∧ ∀ d, u.textIn r d =
        if u.assignments.isEmpty then .error .emptyAssignments
        else .ok (filled first rest ((u.tableNames t).map
          (quotedBy (if d ∈ backtickDialects then '\x60' else '"'))))) ∧
      ((∀ s ∈ u.tableNames t, isPlainName s = true) → ∀ d d', u.textIn r d = u.textIn r d')) ∧
    ∀ j, u.target = .join j →
      (∀ sql, u.textIn r .mysql = .ok sql ↔ u.textIn r .mariadb = .ok sql) ∧
      (∀ sql, u.textIn r .postgresql = .ok sql ↔ u.textIn r .sqlite = .ok sql) ∧
      (u.limit = none →
        (∃ e e', u.textIn r .postgresql = .error e ∧ u.textIn r .sqlserver = .error e') ∨
        ∃ front rest,
          u.textIn r .postgresql = .ok (front ++ " SET "
            ++ ", ".intercalate (u.assignments.map (Assignment.item r false)) ++ rest) ∧
          u.textIn r .sqlserver = .ok (front ++ " SET "
            ++ ", ".intercalate (u.assignments.map (Assignment.item r true)) ++ rest)) := by
  refine ⟨fun t htarget hlimit => ⟨?_, fun hplain d d' => ?_⟩, fun j htarget => ⟨?_, ?_, ?_⟩⟩
  · let cut := nameSegments r (tablePieces t none u.assignments u.filter)
    refine ⟨cut.1, cut.2, ?_, fun d => ?_⟩
    · rw [length_nameSegments, namesOf_tablePieces]
    · rw [← quote_eq]
      exact textIn_table r d htarget hlimit
  · rw [textIn_table r d htarget hlimit, textIn_table r d' htarget hlimit,
      map_quotedBy_of_isPlainName _ hplain, map_quotedBy_of_isPlainName _ hplain]
  · exact textIn_eq_ok_congr .mysql .mariadb rfl rfl rfl r u
  · exact textIn_eq_ok_congr .postgresql .sqlite rfl rfl rfl r u
  · exact fun hlimit => textIn_sqlserver_cases htarget hlimit r

/-- An UPDATE whose names all need quotes, but for one. -/
def quotesExample (target : Target) : Update where
  target := target
  assignments := [⟨⟨"order", "Total", .varchar⟩, .value (.text "x")⟩]
  filter := some (Column.isNull ⟨"order", "paid", .varchar⟩)
  limit := none

/-- A join in which the names of a table and of two columns need quotes. -/
def quotesJoin : Join :=
  .on (.ofTable (.empty "order")) .inner (.empty "bill") ⟨"order", "Id", .integer⟩
    ⟨"bill", "order", .integer⟩

theorem vendors_agree_quotesExample :
    let order : Table := .empty "order"
    let onTable := quotesExample (.table order)
    let onJoin := quotesExample (.join quotesJoin)
    (onTable.target = .table order ∧ onTable.limit = none ∧
      onTable.tableNames order = ["order", "Total", "order", "paid"] ∧
      ∃ first rest, rest.length = 4 ∧
        (onTable.textIn .inlined .oracle = .ok (filled first rest
          ["\"order\"", "\"Total\"", "\"order\"", "paid"])) ∧
        onTable.textIn .inlined .mariadb = .ok (filled first rest
          ["\x60order\x60", "\x60Total\x60", "\x60order\x60", "paid"])) ∧
    onJoin.target = .join quotesJoin ∧ quotesJoin.parts.length = 1 ∧ onJoin.limit = none ∧
      ∃ front rest,
        onJoin.textIn .prepared .postgresql = .ok (front ++ " SET " ++ "\"Total\" = ?" ++ rest) ∧
        onJoin.textIn .prepared .sqlserver =
          .ok (front ++ " SET " ++ "\"order\".\"Total\" = ?" ++ rest) := by
  intro order onTable onJoin
  obtain ⟨⟨first, rest, hlength, htext⟩, -⟩ := (vendors_agree onTable .inlined).1 order rfl rfl
  have hwritten {d : Dialect} {names : List String} (h : (onTable.tableNames order).map
      (quotedBy (if d ∈ backtickDialects then '\x60' else '"')) = names) :
      onTable.textIn .inlined d = .ok (filled first rest names) := h ▸ htext d
  refine ⟨⟨rfl, rfl, rfl, first, rest, hlength, hwritten (by decide), hwritten (by decide)⟩,
    rfl, rfl, rfl, ?_⟩
  obtain ⟨-, -, hjoin⟩ := (vendors_agree onJoin .prepared).2 quotesJoin rfl
  obtain ⟨e, e', he, -⟩ | ⟨front, rest, hplain, hqualified⟩ := hjoin rfl
  · cases he
  · exact ⟨front, rest, hplain, hqualified⟩

end SqlUpdate
