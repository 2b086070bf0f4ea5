import SqlUpdate.Proofs.Binding.Entries
import SqlUpdate.Proofs.Reading.Tables
import SqlUpdate.Proofs.Statement.Acceptance
import SqlUpdate.Proofs.Statement.JoinConditions
/-!
# Statements on a join are complete

No table of a join and none of its conditions is lost or invented, also if a table is joined more
than once or to itself.

* `Join.joined`, `tables_eq_first_of_joined` — the tables of a join are the first ones of each name.
* `mem_tablesOf_iff` — a statement names the tables of its join and no others.
* `tablesOf_from` — behind `FROM` there are those other than the updated one.
* `Join.conditionTexts`, `exists_filled_conditionTexts` — each condition is written in a place of
  its own.
* `joins_complete` — all of it for compiled statements.
-/

namespace SqlUpdate

/-! ### Tables of a join -/

/-- The tables in the order in which they are joined, repeated ones included. -/
def Join.joined (j : Join) : List Table := j.lead :: j.parts.map JoinPart.table

section Tables

variable {j : Join} {ts : List Table} {known : List String} {n : String}

theorem map_name_firstOfEachName (known : List String) (ts : List Table) :
    (firstOfEachName known ts).map Table.name
      = ((ts.map Table.name).filter fun n => n ∉ known).eraseDups := by
  induction ts generalizing known with
  | nil => rfl
  | cons t ts ih =>
    rw [firstOfEachName, List.map_cons]
    by_cases h : t.name ∈ known
    · rw [if_pos (List.contains_iff_mem.2 h), ih, List.filter_cons_of_neg (by simpa using h)]
    · rw [if_neg fun hc => h (List.contains_iff_mem.1 hc), List.map_cons, ih,
        List.filter_cons_of_pos (by simpa using h), List.eraseDups_cons, List.filter_filter]
      congr 2
      refine List.filter_congr fun n _ => ?_
      simp [beq_eq_decide]

theorem find?_firstOfEachName (ts : List Table) (h : n ∉ known) :
    (firstOfEachName known ts).find? (fun t => t.name = n) = ts.find? fun t => t.name = n := by
  induction ts generalizing known with
  | nil => rfl
  | cons t ts ih =>
    rw [firstOfEachName]
    by_cases hn : t.name = n
    · have hknown : ¬ known.contains t.name = true := by
        rw [hn, List.contains_iff_mem]
        exact h
      rw [if_neg hknown, List.find?_cons_of_pos (by simpa using hn),
        List.find?_cons_of_pos (by simpa using hn)]
    · rw [List.find?_cons_of_neg (by simpa using hn)]
      split
      · exact ih h
      · rw [List.find?_cons_of_neg (by simpa using hn)]
        refine ih fun hmem => ?_
        rcases List.mem_cons.1 hmem with heq | hmem
        · exact hn heq.symm
        · exact h hmem

theorem nodup_firstOfEachName (known : List String) (ts : List Table) :
    ((firstOfEachName known ts).map Table.name).Nodup := by
  induction ts generalizing known with
  | nil => exact List.nodup_nil
  | cons t ts ih =>
    rw [firstOfEachName]
    split
    · exact ih known
    · refine List.nodup_cons.2 ⟨fun hmem => ?_, ih (t.name :: known)⟩
      exact ((mem_names_firstOfEachName _ ts t.name).1 hmem).1 List.mem_cons_self

theorem nodup_tables (j : Join) : (j.tables.map Table.name).Nodup := nodup_firstOfEachName [] _

theorem map_name_tables (j : Join) :
    j.tables.map Table.name = (j.joined.map Table.name).eraseDups := by
  rw [Join.tables, map_name_firstOfEachName]
  congr 1
  exact List.filter_eq_self.2 fun n _ => rfl

theorem table?_eq_find?_joined (j : Join) (n : String) :
    j.table? n = j.joined.find? fun t => t.name = n :=
  find?_firstOfEachName _ List.not_mem_nil

/-- The tables are the first ones of each name, in the order of their names. -/
theorem tables_eq_first_of_joined (j : Join) : j.tables =
    (j.joined.map Table.name).eraseDups.filterMap fun n => j.joined.find? fun t => t.name = n := by
  have hfound := filterMap_find?_of_nodup Table.name (nodup_tables j)
  rw [map_name_tables] at hfound
  rw [← hfound]
  exact List.filterMap_congr fun n _ => table?_eq_find?_joined j n

theorem mem_names_tables_iff : n ∈ j.tables.map Table.name ↔ n ∈ j.joined.map Table.name := by
  rw [map_name_tables, List.mem_eraseDups]

theorem exists_table?_iff (j : Join) (n : String) :
    (∃ t, j.table? n = some t) ↔ ∃ t ∈ j.joined, t.name = n := by
  rw [table?_eq_find?_joined, ← Option.isSome_iff_exists, List.find?_isSome]
  simp only [decide_eq_true_eq]

end Tables

/-! ### Tables of a statement -/

section Statements

variable {d : Dialect} {j : Join} {as : List Assignment} {limit : Option Nat} {form : Form}
  {t : Table}

/-- All assigned columns are those of the updated table, which is joined. -/
theorem name_updatedTable (h : updatedTable d j as = .ok t) :
    t.name ∈ j.joined.map Table.name ∧ ∀ a ∈ as, a.column.table = t.name := by
  obtain ⟨-, hcommon⟩ := updatedTable_eq_ok_iff.1 h
  cases as with
  | nil => cases hcommon
  | cons a as =>
    rw [commonTable?] at hcommon
    split at hcommon
    · rename_i hall
      have hname : t.name = a.column.table := by simpa using List.find?_some hcommon
      have hsame : ∀ b ∈ as, b.column.table = a.column.table := by simpa using hall
      refine ⟨mem_names_tables_iff.1 (List.mem_map_of_mem (List.mem_of_find?_eq_some hcommon)),
        List.forall_mem_cons.2 ⟨hname.symm, fun b hb => (hsame b hb).trans hname.symm⟩⟩
    · cases hcommon

theorem map_name_otherTables (t : Table) (j : Join) :
    (otherTables t j).map Table.name = (j.tables.map Table.name).filter fun n => n ≠ t.name := by
  rw [otherTables, List.filter_map]
  rfl

/-- A planned statement names the tables of the join and no others. -/
theorem mem_tablesOf_iff (filter : Option Expr) (h : JoinPlanned d j as limit form) (n : String) :
    n ∈ (tablesOf (Plan.pieces ⟨form, as, filter⟩)).map Prod.snd
      ↔ n ∈ j.tables.map Table.name := by
  rw [mem_names_tables_iff]
  have hjoined (c : Clause) : ((c, j.lead.name) :: j.parts.map fun part =>
      (Clause.join, part.table.name)).map Prod.snd = j.joined.map Table.name := by
    rw [Join.joined, List.map_cons, List.map_cons, List.map_map, List.map_map]
    rfl
  cases h with
  | list => rw [tablesOf_listPieces, hjoined]
  | @«from» _ _ t _ _ ht =>
    have hother : ((Clause.update, t.name) :: (otherTables t j).map fun u =>
        (Clause.from, u.name)).map Prod.snd = t.name :: (otherTables t j).map Table.name := by
      rw [List.map_cons, List.map_map]
      rfl
    rw [tablesOf_fromPieces, hother, map_name_otherTables, List.mem_cons, List.mem_filter,
      mem_names_tables_iff]
    constructor
    · rintro (rfl | ⟨hn, -⟩)
      · exact (name_updatedTable ht).1
      · exact hn
    · intro hn
      by_cases heq : n = t.name
      · exact .inl heq
      · exact .inr ⟨hn, decide_eq_true heq⟩
  | @merge t part _ _ ht hp =>
    have hmember := (name_updatedTable ht).1
    rw [tablesOf_mergePieces, mergeSource]
    rw [Join.joined, hp] at hmember ⊢
    show n ∈ [t.name, _] ↔ n ∈ [j.lead.name, part.table.name]
    have hmember : t.name ∈ [j.lead.name, part.table.name] := hmember
    simp only [List.mem_cons, List.not_mem_nil, or_false] at hmember ⊢
    split
    · rename_i hlead
      rw [hlead]
    · rename_i hlead
      -- the updated table is the joined one, and the leading one is merged into it
      rw [hmember.resolve_left fun heq => hlead heq.symm, or_comm]
  | view => rw [tablesOf_viewPieces, hjoined]

/-- An UPDATE from other tables names those of the join but for the updated one, each once. -/
theorem tablesOf_from {qualified top : Bool} (filter : Option Expr)
    (h : JoinPlanned d j as limit form) (hstyle : d.joinStyle = .from qualified top)
    {a : Assignment} (ha : a ∈ as) : tablesOf (Plan.pieces ⟨form, as, filter⟩)
      = (.update, a.column.table) :: ((j.tables.map Table.name).filter fun n =>
        n ≠ a.column.table).map fun n => (.from, n) := by
  cases h with
  | list hs => cases hstyle.symm.trans hs
  | «from» _ _ ht =>
    rw [tablesOf_fromPieces, (name_updatedTable ht).2 a ha, ← map_name_otherTables, List.map_map]
    rfl
  | merge hs => cases hstyle.symm.trans hs
  | view hs => cases hstyle.symm.trans hs

end Statements

/-! ### Conditions -/

/-- The conditions of a part: the pairs of equal columns, and then the constraint between
parentheses. -/
def JoinPart.conditionTexts (d : Dialect) (p : JoinPart) : List String :=
  (p.pairs.map fun c =>
      d.qualified c.1.table c.1.name ++ " = " ++ d.qualified c.2.table c.2.name)
    ++ (p.constraint.map fun e => "(" ++ textOf d .inlined e.pieces ++ ")").toList

/-- The conditions of all parts, in the order in which they are declared. -/
def Join.conditionTexts (d : Dialect) (j : Join) : List String :=
  j.parts.flatMap (JoinPart.conditionTexts d)

theorem textOf_pairPieces (d : Dialect) (c : Column × Column) : textOf d .prepared (pairPieces c)
    = d.qualified c.1.table c.1.name ++ " = " ++ d.qualified c.2.table c.2.name := by
  rw [pairPieces, textOf_append, textOf_cons, textOf_qualified, textOf_qualified,
    ← String.append_assoc]
  rfl

theorem textOf_constraintPieces (d : Dialect) (e : Expr) :
    textOf d .prepared (constraintPieces e) = "(" ++ textOf d .inlined e.pieces ++ ")" := by
  have hinlined : textOf d .prepared (e.pieces.map Piece.inlined) = textOf d .inlined e.pieces := by
    rw [textOf, textOf, List.map_map]
    exact congrArg String.join (List.map_congr_left fun p _ => p.text_inlined d .prepared)
  show textOf d .prepared (.sql "(" :: (e.pieces.map Piece.inlined ++ [.sql ")"])) = _
  rw [textOf_cons, textOf_append, hinlined, ← String.append_assoc]
  rfl

theorem map_textOf_conditions (d : Dialect) (j : Join) :
    j.conditions.map (textOf d .prepared) = j.conditionTexts d := by
  rw [Join.conditions, Join.conditionTexts, List.map_flatMap]
  refine List.flatMap_congr fun p _ => ?_
  have hpairs := List.map_congr_left (l := p.pairs) fun c _ => textOf_pairPieces d c
  have hconstraint : (p.constraint.map constraintPieces).toList.map (textOf d .prepared)
      = (p.constraint.map fun e => "(" ++ textOf d .inlined e.pieces ++ ")").toList := by
    cases p.constraint with
    | none => rfl
    | some e => exact congrArg (fun s => [s]) (textOf_constraintPieces d e)
  rw [JoinPart.conditions, JoinPart.conditionTexts, List.map_append, List.map_map, ← hpairs,
    hconstraint]
  rfl

/-- Each condition is written in a place of its own, in order: other conditions of as many parts are
written there instead, and nothing else changes. -/
theorem exists_filled_conditionTexts {ctx : Context} {u : Update} {j : Join} {s : Rendered}
    (htarget : u.target = .join j) (h : u.render ctx = .ok s) : ∃ first rest, ∀ k, j.SameShape k →
      rest.length = (k.conditionTexts ctx.joinDialect).length ∧
      ({ u with target := .join k } : Update).compile ctx
        = .ok (filled first rest (k.conditionTexts ctx.joinDialect)) := by
  obtain ⟨hne, -⟩ := render_eq_ok h
  obtain ⟨form, hplanned, -⟩ := render_join_eq_ok htarget h
  obtain ⟨first, rest, hfilled⟩ := conditions_planJoin u.filter hplanned
  refine ⟨first, rest, fun k hk => ?_⟩
  obtain ⟨form', hform', hlength, htext⟩ := hfilled k hk
  have hcompile := map_text_render ctx { u with target := .join k } .prepared
  rw [if_neg (by simpa using hne)] at hcompile
  rw [← map_textOf_conditions, List.length_map]
  refine ⟨hlength, hcompile.trans ?_⟩
  show (planJoin ctx.joinDialect k u.assignments u.limit).map _ = _
  rw [hform']
  exact congrArg Except.ok htext

/-! ### Completeness -/

/-- **Joins are complete.** The tables of a join are the first ones of each name in the order in
which they are joined, and are found by their names. A compiled statement on the join names these
tables and no others; an UPDATE from other tables names the updated one in front, and the others
behind `FROM`, each once and in that order. Every pair of columns and every constraint of every part
has a place of its own in the text, in order of declaration. -/
theorem joins_complete (j : Join) :
    ((j.tables.map Table.name).Nodup ∧ j.tables.head? = some j.lead ∧
      j.tables = (j.joined.map Table.name).eraseDups.filterMap
        (fun n => j.joined.find? fun t => t.name = n) ∧
      ∀ n, (∃ t, j.table? n = some t) ↔ ∃ t ∈ j.joined, t.name = n) ∧
    ∀ (ctx : Context) (u : Update) (sql : String), u.target = .join j → u.compile ctx = .ok sql →
      (∃ s, u.render ctx = .ok s ∧ s.text .prepared = sql ∧
        (u.isRawFree = true → tablesIn s.dialect.quote sql = some (tablesOf s.pieces)) ∧
        (∀ n, n ∈ (tablesOf s.pieces).map Prod.snd ↔ n ∈ j.tables.map Table.name) ∧
        ∀ qualified top, ctx.joinDialect.joinStyle = .from qualified top → ∀ a ∈ u.assignments,
          tablesOf s.pieces = (.update, a.column.table) :: ((j.tables.map Table.name).filter
            fun n => n ≠ a.column.table).map fun n => (.from, n)) ∧
      ∃ first rest, sql = filled first rest (j.conditionTexts ctx.joinDialect) ∧
        ∀ k, j.SameShape k → rest.length = (k.conditionTexts ctx.joinDialect).length ∧
          ({ u with target := .join k } : Update).compile ctx
            = .ok (filled first rest (k.conditionTexts ctx.joinDialect)) := by
  refine ⟨⟨nodup_tables j, rfl, tables_eq_first_of_joined j, exists_table?_iff j⟩, ?_⟩
  intro ctx u sql htarget hcompile
  obtain ⟨s, hs, htext⟩ := compile_eq_ok hcompile
  refine ⟨⟨s, hs, htext, fun hraw => ?_, ?_⟩, ?_⟩
  · rw [← htext]
    exact tablesIn_textOf s.dialect (spaced_render hs hraw)
  · obtain ⟨form, hplanned, rfl⟩ := render_join_eq_ok htarget hs
    exact ⟨mem_tablesOf_iff u.filter hplanned,
      fun qualified top hstyle a ha => tablesOf_from u.filter hplanned hstyle ha⟩
  · obtain ⟨first, rest, hfilled⟩ := exists_filled_conditionTexts htarget hs
    refine ⟨first, rest, ?_, hfilled⟩
    have hj := (hfilled j (.refl j)).2
    rw [← htarget] at hj
    exact Except.ok.inj (hcompile.symm.trans hj)

/-- Employees joined to their departments, and to those who head them. -/
def headsJoin : Join :=
  (Join.ofTable (.empty "staff")
    |>.add ⟨.inner, .empty "units", [(⟨"staff", "unit", .integer⟩, ⟨"units", "id", .integer⟩)],
      some (Column.compare ⟨"units", "open", .integer⟩ .eq (.int 1))⟩
    |>.add ⟨.left, .empty "staff", [(⟨"units", "head", .integer⟩, ⟨"staff", "id", .integer⟩)],
      none⟩)

def headsExample : Update where
  target := .join headsJoin
  assignments := [⟨⟨"staff", "note", .varchar⟩, .value (.text "x")⟩]
  filter := none
  limit := none

/-- A table that is joined to itself stands behind `UPDATE` alone, and keeps its conditions. -/
theorem joins_complete_headsExample :
    let sql := "UPDATE staff SET staff.note = ? FROM units WHERE staff.unit = units.id "
      ++ "AND (units.open = 1) AND units.head = staff.id"
    headsExample.target = .join headsJoin ∧ headsExample.compile (.of .sqlserver) = .ok sql ∧
      (∃ s, headsExample.render (.of .sqlserver) = .ok s ∧
        tablesOf s.pieces = [(.update, "staff"), (.from, "units")] ∧
        tablesIn s.dialect.quote sql = some [(.update, "staff"), (.from, "units")]) ∧
      ∃ first rest, sql = filled first rest
        ["staff.unit = units.id", "(units.open = 1)", "units.head = staff.id"] := by
  intro sql
  have hcompile : headsExample.compile (.of .sqlserver) = .ok sql := by decide
  have htexts : headsJoin.conditionTexts .sqlserver
      = ["staff.unit = units.id", "(units.open = 1)", "units.head = staff.id"] := by
    decide
  obtain ⟨⟨s, hs, -, hread, -, hfrom⟩, first, rest, hfilled, -⟩ :=
    (joins_complete headsJoin).2 (.of .sqlserver) headsExample sql rfl hcompile
  have htables : tablesOf s.pieces = [(.update, "staff"), (.from, "units")] :=
    hfrom true true rfl _ List.mem_cons_self
  refine ⟨rfl, hcompile, ⟨s, hs, htables, htables ▸ hread rfl⟩, first, rest, ?_⟩
  rw [← htexts]
  exact hfilled

end SqlUpdate
