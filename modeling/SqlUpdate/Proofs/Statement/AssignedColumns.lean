import Mathlib.Data.List.Nodup
import SqlUpdate.Proofs.Lexical.Pieces
import SqlUpdate.Proofs.Statement.Acceptance
/-!
# Which columns an UPDATE of a table writes

An UPDATE of a table writes the assigned columns by their names alone. It does not look at the
tables that they belong to, so a column of another table is written as if it were one of its own.

* `target_applyAll`, `nodup_keys_applyAll` — what every sequence of steps keeps: the relation, and
  that no column of a table is assigned twice.
* `Dialect.identifier_injective` — different names are written differently.
* `textOf_setPieces`, `setPieces_infix_tablePieces` — the assignments in the text of a statement.
* `assignsOwnColumns_iff` — a statement on a table assigns columns of the table alone only if it
  was put together so, or if it is refused for its limit.
-/

namespace SqlUpdate

/-! ### Putting a statement together -/

theorem target_apply (u : Update) (s : Step) : (u.apply s).target = u.target := by
  cases s <;> rfl

theorem target_applyAll (u : Update) (steps : List Step) :
    (u.applyAll steps).target = u.target := by
  induction steps generalizing u with
  | nil => rfl
  | cons s steps ih => exact (ih (u.apply s)).trans (target_apply u s)

/-- The assigned columns, each by its table and its name. -/
def Update.keys (u : Update) : List (String × String) := u.assignments.map fun a => a.column.key

/-- One more step assigns no column twice. -/
theorem nodup_keys_apply {u : Update} (h : u.keys.Nodup) (s : Step) : (u.apply s).keys.Nodup := by
  cases s with
  | assign c v =>
    show ((reassign c v u.assignments).map fun a => a.column.key).Nodup
    rw [keys_reassign]
    split
    · exact h
    · rename_i hnew
      refine List.nodup_append.2 ⟨h, by simp, fun k hk l hl heq => hnew ?_⟩
      rw [← List.mem_singleton.1 hl, ← heq]
      exact hk
  | filterBy e => exact h
  | alsoFilterBy e => exact h
  | limitTo n => exact h

theorem nodup_keys_applyAll {u : Update} (h : u.keys.Nodup) (steps : List Step) :
    (u.applyAll steps).keys.Nodup := by
  induction steps generalizing u with
  | nil => exact h
  | cons s steps ih => exact ih (nodup_keys_apply h s)

/-! ### Names -/

/-- No plain name is written between quotes. -/
theorem ne_quotedIdentifier_of_isPlainName (d : Dialect) {s : String} (h : isPlainName s = true)
    (t : String) : s ≠ d.quotedIdentifier t := by
  intro heq
  have hhead : d.quote ∈ s.toList := by
    rw [heq, Dialect.quotedIdentifier, String.toList_ofList]
    exact List.mem_cons_self
  have hquote := (isPlainName_chars h).2 _ hhead
  cases d <;> exact absurd hquote (by decide)

theorem quotedIdentifier_injective (d : Dialect) : Function.Injective d.quotedIdentifier := by
  intro s t h
  have hs := Quoted.read?_enclosed d.quote s.toList [] nofun
  have ht := Quoted.read?_enclosed d.quote t.toList [] nofun
  rw [String.ofList_injective h, ht] at hs
  exact (String.toList_inj.1 (congrArg Prod.fst (Option.some.inj hs))).symm

/-- Different names are written differently. -/
theorem Dialect.identifier_injective (d : Dialect) : Function.Injective d.identifier := by
  intro s t h
  rw [identifier, identifier] at h
  split at h <;> rename_i hs <;> split at h <;> rename_i ht
  · exact h
  · exact absurd h (ne_quotedIdentifier_of_isPlainName d hs t)
  · exact absurd h.symm (ne_quotedIdentifier_of_isPlainName d ht s)
  · exact quotedIdentifier_injective d h

/-! ### The text of the assignments -/

theorem textOf_separated (d : Dialect) (r : Reading) (separator : String)
    (pss : List (List Piece)) : textOf d r (separated separator pss)
      = separator.intercalate (pss.map (textOf d r)) := by
  induction pss with
  | nil => rfl
  | cons ps pss ih =>
    cases pss with
    | nil => simp [separated]
    | cons qs pss =>
      rw [separated, textOf_append, textOf_cons, ih, List.map_cons (l := qs :: pss), List.map_cons,
        String.intercalate_cons_cons, String.append_assoc]
      rfl

/-- The assignments behind `SET`, with their columns qualified or not. -/
theorem textOf_setPieces_qualified (d : Dialect) (r : Reading) (qualified : Bool)
    (as : List Assignment) : textOf d r (setPieces qualified as)
      = " SET " ++ ", ".intercalate (as.map fun a =>
        textOf d r (assignedName qualified a.column) ++ " = " ++ textOf d r a.valuePieces) := by
  rw [setPieces, textOf_cons, textOf_separated, List.map_map]
  refine congrArg (fun l => " SET " ++ ", ".intercalate l) (List.map_congr_left fun a _ => ?_)
  show textOf d r (assignedName qualified a.column ++ .sql " = " :: a.valuePieces) = _
  rw [textOf_append, textOf_cons, String.append_assoc]
  rfl

/-- An assignment to a name, with a placeholder or the text of an expression. -/
def Assignment.text (d : Dialect) (a : Assignment) : String :=
  d.identifier a.column.name ++ " = " ++ textOf d .prepared a.valuePieces

theorem textOf_name (d : Dialect) (r : Reading) (s : String) :
    textOf d r [.name s] = d.identifier s := by
  rw [textOf_cons, textOf_nil, String.append_empty]
  rfl

theorem textOf_setPieces (d : Dialect) (as : List Assignment) :
    textOf d .prepared (setPieces false as)
      = " SET " ++ ", ".intercalate (as.map (Assignment.text d)) := by
  rw [textOf_setPieces_qualified]
  refine congrArg (fun l => " SET " ++ ", ".intercalate l) (List.map_congr_left fun a _ => ?_)
  show textOf d .prepared [.name a.column.name] ++ _ ++ _ = _
  rw [textOf_name, Assignment.text]

/-- However the number of rows is limited, the assignments stand in the statement. -/
theorem setPieces_infix_tablePieces (t : Table) (limit : Option (LimitStyle × Nat))
    (as : List Assignment) (filter : Option Expr) :
    setPieces false as <:+: tablePieces t limit as filter := by
  match limit with
  | none => exact ⟨[.sql "UPDATE ", .name t.name], wherePieces filter, rfl⟩
  | some (.suffix, n) =>
    exact ⟨[.sql "UPDATE ", .name t.name], wherePieces filter ++ [.sql " LIMIT ", numberPiece n],
      by simp [tablePieces]⟩
  | some (.top, n) =>
    exact ⟨.sql "UPDATE " :: topPieces (some n) ++ [.name t.name], wherePieces filter,
      by simp [tablePieces]⟩
  | some (.rownum, n) => exact ⟨[.sql "UPDATE ", .name t.name], _, rfl⟩

/-! ### Statements on a table -/

/-- All assigned columns belong to a table. -/
def Update.AssignsOnly (u : Update) (t : Table) : Prop :=
  ∀ a ∈ u.assignments, a.column.table = t.name

instance (u : Update) (t : Table) : Decidable (u.AssignsOnly t) :=
  inferInstanceAs (Decidable (∀ a ∈ u.assignments, a.column.table = t.name))

/-- The names on the left of the assignments, as they are written. -/
def Update.writtenNames (d : Dialect) (u : Update) : List String :=
  u.assignments.map fun a => d.identifier a.column.name

/-- A name is assigned twice only if two tables have a column of that name. -/
theorem nodup_writtenNames_iff (d : Dialect) {u : Update} (h : u.keys.Nodup) :
    (u.writtenNames d).Nodup ↔ ∀ a ∈ u.assignments, ∀ b ∈ u.assignments,
      a.column.name = b.column.name → a.column.table = b.column.table := by
  have hkey := List.inj_on_of_nodup_map h
  rw [Update.writtenNames, List.nodup_map_iff_inj_on h.of_map]
  constructor
  · intro hinj a ha b hb hname
    rw [hinj a ha b hb (congrArg d.identifier hname)]
  · intro hall a ha b hb hwritten
    have hname := d.identifier_injective hwritten
    exact hkey ha hb (Prod.ext (hall a ha b hb hname) hname)

/-- The columns of one table have different names. -/
theorem Update.AssignsOnly.nodup_writtenNames (d : Dialect) {u : Update} {t : Table}
    (h : u.AssignsOnly t) (hkeys : u.keys.Nodup) : (u.writtenNames d).Nodup :=
  (nodup_writtenNames_iff d hkeys).2 fun a ha b hb _ => (h a ha).trans (h b hb).symm

/-- Which tables the assigned columns belong to plays no part in whether a statement on a table
compiles. -/
theorem compile_table_eq_ok_iff (ctx : Context) {u : Update} {t : Table}
    (htarget : u.target = .table t) : (∃ sql, u.compile ctx = .ok sql) ↔
      u.assignments ≠ [] ∧ ¬ (u.limit ≠ none ∧ ctx.tableDialect ∈ [.postgresql, .sqlite]) := by
  have hcompile : Decides (u.compile ctx) (acceptanceTable ctx u) := (decides_render ctx u).map _
  rw [hcompile.eq_ok_iff, acceptanceTable, targetChecks, htarget, List.forall_mem_cons,
    List.forall_mem_singleton, Check.passed_refuseIf, Check.passed_refuseIf]

/-- The assignments in the text of a statement on a table. -/
theorem exists_compile_table_eq {ctx : Context} {u : Update} {t : Table} {sql : String}
    (htarget : u.target = .table t) (h : u.compile ctx = .ok sql) : ∃ before after,
      sql = before ++ " SET " ++ ", ".intercalate
        (u.assignments.map (Assignment.text ctx.tableDialect)) ++ after := by
  obtain ⟨s, hs, rfl⟩ := compile_eq_ok h
  obtain ⟨-, form, hform, rfl⟩ := render_eq_ok hs
  rw [htarget] at hform ⊢
  obtain ⟨limit, rfl⟩ : ∃ limit, form = .table t limit := by
    rcases planTable_eq_ok hform with ⟨-, rfl⟩ | ⟨n, style, -, -, rfl⟩ <;> exact ⟨_, rfl⟩
  obtain ⟨ps, qs, hpieces⟩ := setPieces_infix_tablePieces t limit u.assignments u.filter
  refine ⟨textOf ctx.tableDialect .prepared ps, textOf ctx.tableDialect .prepared qs, ?_⟩
  show textOf ctx.tableDialect .prepared (tablePieces t limit u.assignments u.filter) = _
  rw [← hpieces, textOf_append, textOf_append, textOf_setPieces]
  simp only [String.append_assoc]

/-- **Foreign columns are written as columns of the table.** Put a statement on a table together in
any steps. If it compiles, its text assigns to the names of all assigned columns in turn, whatever
tables they belong to, and a name stands there twice exactly if columns of two tables share it. So
what compiles assigns columns of the table alone, each name once, exactly if only such columns were
assigned in the first place, or if the dialect refuses the limit. -/
theorem assignsOwnColumns_iff (ctx : Context) (t : Table) (steps : List Step) :
    let d := ctx.tableDialect
    let u := (Update.of (.table t)).applyAll steps
    (∀ sql, u.compile ctx = .ok sql → ∃ before after, sql =
      before ++ " SET " ++ ", ".intercalate (u.assignments.map (Assignment.text d)) ++ after) ∧
    ((u.writtenNames d).Nodup ↔ ∀ a ∈ u.assignments, ∀ b ∈ u.assignments,
      a.column.name = b.column.name → a.column.table = b.column.table) ∧
    ((∀ sql, u.compile ctx = .ok sql → u.AssignsOnly t ∧ (u.writtenNames d).Nodup) ↔
      u.AssignsOnly t ∨ (u.limit ≠ none ∧ d ∈ [.postgresql, .sqlite])) := by
  intro d u
  have htarget : u.target = .table t := target_applyAll _ steps
  have hkeys : u.keys.Nodup := nodup_keys_applyAll (u := .of (.table t)) List.nodup_nil steps
  refine ⟨fun sql h => exists_compile_table_eq htarget h, nodup_writtenNames_iff d hkeys, ?_⟩
  constructor
  · intro hmeets
    by_cases hlimit : u.limit ≠ none ∧ d ∈ [.postgresql, .sqlite]
    · exact .inr hlimit
    · by_cases hassigned : u.assignments = []
      · refine .inl fun a ha => ?_
        rw [hassigned] at ha
        cases ha
      · obtain ⟨sql, hsql⟩ := (compile_table_eq_ok_iff ctx htarget).2 ⟨hassigned, hlimit⟩
        exact .inl (hmeets sql hsql).1
  · rintro (hown | hlimit) sql hsql
    · exact ⟨hown, hown.nodup_writtenNames d hkeys⟩
    · exact absurd hlimit ((compile_table_eq_ok_iff ctx htarget).1 ⟨sql, hsql⟩).2

/-- Columns of two tables with the same name, assigned in a statement on one of the tables. The
same assignments are refused on a join that the other table is no part of. -/
theorem foreignColumn_compiles :
    let users : Table := ⟨"users", [("name", .varchar)]⟩
    let steps : List Step := [.assign ⟨"users", "name", .varchar⟩ (.value (.text "a")),
      .assign ⟨"cities", "name", .varchar⟩ (.value (.text "b"))]
    let u := (Update.of (.table users)).applyAll steps
    u.compile .standard = .ok "UPDATE users SET name = ?, name = ?" ∧ ¬ u.AssignsOnly users ∧
      ¬ (u.writtenNames .generic).Nodup ∧
      ((Update.of (.join (.ofTable users))).applyAll steps).compile (.of .mysql) =
        .error (.invalidArgument (.notInJoin ⟨"cities", "name", .varchar⟩)) := by
  decide +kernel

end SqlUpdate
