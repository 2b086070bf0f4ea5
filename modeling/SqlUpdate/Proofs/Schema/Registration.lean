import SqlUpdate.Schema.Registration
import SqlUpdate.Proofs.Binding.StatementFile
/-!
# What calls that register columns make of a table

A table has one column for each name that was registered, in the order in which the names were first
registered, and its type is the one that was given last.

* `columns_addColumn` — a call changes the type of one column, or adds a column at the end.
* `Registration.lastType?` — the type that a run gives a name in the end.
* `registerAll_eq` — a run gives a column for each call, and the calls put their fields in turn.
* `table_eq_registerAll` — the tables of a statement file are made by such runs.
* `registered_columns` — all columns of a table, and how they are found, after any run.
-/

namespace SqlUpdate

/-! ### One call -/

namespace Table

variable (t : Table)

theorem map_name_columns : t.columns.map Column.name = t.fields.map Prod.fst := by
  rw [columns, List.map_map]
  rfl

/-- Registering a name again changes the type of its column and nothing else; a new name gets a
column at the end. -/
theorem columns_addColumn (h : (t.columns.map Column.name).Nodup) (name : String)
    (type : ColumnType) : (t.addColumn name type).columns =
      if name ∈ t.columns.map Column.name then
        t.columns.map fun c => if c.name = name then { c with type := type } else c
      else t.columns ++ [t.columnOf name type] := by
  rw [map_name_columns] at h ⊢
  rw [addColumn, retype_eq_put, columns, put_of_nodup Prod.fst h]
  split
  · rw [columns, List.map_map, List.map_map]
    refine List.map_congr_left fun f _ => ?_
    by_cases hf : f.1 = name <;> simp [hf]
  · rw [List.map_append]
    rfl

theorem ofFields_eq (name : String) (fields : List (String × ColumnType)) :
    ofFields name fields = ⟨name, fields.foldl (fun fs f => put Prod.fst f fs) []⟩ :=
  name_foldl_addColumn (empty name) fields

/-- Among columns with different names each is found by its name. -/
theorem column?_eq_some_iff (h : (t.columns.map Column.name).Nodup) (name : String) (c : Column) :
    t.column? name = some c ↔ c ∈ t.columns ∧ c.name = name := by
  constructor
  · intro hfound
    exact ⟨List.mem_of_find?_eq_some hfound, by simpa using List.find?_some hfound⟩
  · rintro ⟨hc, rfl⟩
    exact find?_of_nodup Column.name h hc

end Table

/-! ### Runs -/

namespace Registration

/-- The name that a call registers, and its type. -/
def field (r : Registration) : String × ColumnType := (r.name, r.type)

/-- The type that a run registers a name with last. -/
def lastType? (rs : List Registration) (name : String) : Option ColumnType :=
  (rs.reverse.find? fun r => r.name = name).map type

/-- A run gives a column for each call, and the calls put their fields in turn. -/
theorem registerAll_eq (t : Table) (rs : List Registration) : t.registerAll rs =
    (rs.map fun r => ⟨t.name, r.name, r.type⟩,
      (rs.map field).foldl (fun t f => t.addColumn f.1 f.2) t) := by
  induction rs generalizing t with
  | nil => rfl
  | cons r rs ih =>
    rw [Table.registerAll, Table.register_eq, ih]
    rfl

theorem registerAll_empty (name : String) (rs : List Registration) :
    (Table.empty name).registerAll rs =
      (rs.map fun r => ⟨name, r.name, r.type⟩, Table.ofFields name (rs.map field)) :=
  registerAll_eq (Table.empty name) rs

theorem isSome_lastType?_iff (rs : List Registration) (name : String) :
    (lastType? rs name).isSome ↔ name ∈ rs.map Registration.name := by
  simp [lastType?]

variable (table : String) (rs : List Registration)

/-- The names of the columns, without the calls that register a name again. -/
theorem map_name_columns_run : (Table.ofFields table (rs.map field)).columns.map Column.name
    = (rs.map Registration.name).eraseDups := by
  rw [Table.map_name_columns, Table.ofFields_eq, map_key_foldl_put, List.map_map]
  rfl

theorem nodup_columns_run :
    ((Table.ofFields table (rs.map field)).columns.map Column.name).Nodup := by
  rw [Table.map_name_columns, Table.ofFields_eq]
  exact nodup_foldl_put Prod.fst (rs.map field)

/-- A name is found with the type that it is registered with last. -/
theorem column?_run (name : String) : (Table.ofFields table (rs.map field)).column? name
    = (lastType? rs name).map fun type => ⟨table, name, type⟩ := by
  rw [column?_ofFields, ← List.map_reverse, List.find?_map, lastType?]
  show ((rs.reverse.find? fun r => r.name = name).map field).map _ = _
  cases hlast : rs.reverse.find? fun r => r.name = name with
  | none => rfl
  | some r =>
    have hname : r.name = name := by simpa using List.find?_some hlast
    rw [← hname]
    rfl

/-- Names differ, so that a column is in the table just if its name is found and gives it. -/
theorem mem_columns_run (c : Column) : c ∈ (Table.ofFields table (rs.map field)).columns ↔
    c.table = table ∧ lastType? rs c.name = some c.type := by
  have hfound := Table.column?_eq_some_iff _ (nodup_columns_run table rs) c.name c
  rw [column?_run, Option.map_eq_some_iff] at hfound
  rw [← hfound.trans (and_iff_left rfl)]
  obtain ⟨owner, name, type⟩ := c
  constructor
  · rintro ⟨_, htype, hc⟩
    obtain ⟨rfl, -, rfl⟩ := Column.mk.inj hc
    exact ⟨rfl, htype⟩
  · rintro ⟨rfl, htype⟩
    exact ⟨type, htype, rfl⟩

end Registration

/-- The table that a file declares is made by registering the columns that are listed for it. -/
theorem table_eq_registerAll (t : TableDeclaration) : t.table =
    ((Table.empty t.name).registerAll (t.columns.map fun f => .typed f.1 f.2)).2 := by
  have hfields : (t.columns.map fun f => Registration.typed f.1 f.2).map Registration.field
      = t.columns := by
    rw [List.map_map]
    exact List.map_id t.columns
  rw [Registration.registerAll_empty, hfields]
  rfl

/-- **Every name that is registered has one column.** Whatever calls register columns of a table
that has none at first, each call gives a column of the table with the name and the type of the
call. The table has one column for each name, in the order in which the names were first registered,
with the type that the name was registered with last. A column is found by its name, and one is
found just for the names that were registered. If a name is registered again, all columns stay where
they are, and only the type of its own column changes; the column of a new name goes to the end. -/
theorem registered_columns (name : String) (rs : List Registration) :
    let run := (Table.empty name).registerAll rs
    let t := run.2
    run.1 = rs.map (fun r => ⟨name, r.name, r.type⟩) ∧
    t.columns.map Column.name = (rs.map Registration.name).eraseDups ∧
    (t.columns.map Column.name).Nodup ∧
    (∀ c, c ∈ t.columns ↔ c.table = name ∧ Registration.lastType? rs c.name = some c.type) ∧
    (∀ n c, t.column? n = some c ↔ c ∈ t.columns ∧ c.name = n) ∧
    (∀ n, (t.column? n).isSome ↔ n ∈ rs.map Registration.name) ∧
    ∀ r, (t.register r).2.columns =
      if r.name ∈ rs.map Registration.name then
        t.columns.map fun c => if c.name = r.name then { c with type := r.type } else c
      else t.columns ++ [⟨name, r.name, r.type⟩] := by
  intro run t
  -- What the run leaves is a table that is made of fields, so that the lemmas on those apply.
  have hrun : run = _ := Registration.registerAll_empty name rs
  have ht : t = Table.ofFields name (rs.map Registration.field) := congrArg Prod.snd hrun
  have hnames := Registration.map_name_columns_run name rs
  have hnodup := Registration.nodup_columns_run name rs
  rw [ht]
  refine ⟨congrArg Prod.fst hrun, hnames, hnodup, Registration.mem_columns_run name rs,
    Table.column?_eq_some_iff _ hnodup, fun n => ?_, fun r => ?_⟩
  · rw [Registration.column?_run, Option.isSome_map, Registration.isSome_lastType?_iff]
  · have hmem : r.name ∈ (rs.map Registration.name).eraseDups ↔ r.name ∈ rs.map Registration.name :=
      List.mem_eraseDups
    rw [Table.register_eq, Table.columns_addColumn _ hnodup, hnames, if_congr hmem rfl rfl,
      Table.ofFields_eq]
    rfl

/-- A name that is registered three times, with another one between. -/
example :
    let rs := [.common .integer "id", .common .varchar "name", .common .long "id",
      .typed "id" .smallInt]
    (Table.empty "users").registerAll rs =
      ([⟨"users", "id", .integer⟩, ⟨"users", "name", .varchar⟩, ⟨"users", "id", .bigInt⟩,
        ⟨"users", "id", .smallInt⟩], ⟨"users", [("id", .smallInt), ("name", .varchar)]⟩) := by
  decide

end SqlUpdate
