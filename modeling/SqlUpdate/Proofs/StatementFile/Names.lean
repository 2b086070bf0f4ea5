import SqlUpdate.Proofs.Binding.StatementFile
/-!
# The names in a statement file

A column is written behind the name of its table, and the first point ends that name. A table or a
column whose own name has a point is therefore not always found.

* `tablePart`, `columnPart` — what stands around the first point of a written name.
* `StatementFile.Resolves`, `column_eq_ok_iff` — the names that name a column, and which.
* `column_qualifiedName` — if tables have different names without points, every column is found.
-/

namespace SqlUpdate

/-! ### Written names -/

/-- The name of the table in a written name. -/
def tablePart (name : String) : String := String.ofList (name.toList.takeWhile fun c => c ≠ '.')

/-- The name of the column in a written name. -/
def columnPart (name : String) : String :=
  String.ofList ((name.toList.dropWhile fun c => c ≠ '.').drop 1)

theorem splitOnce?_eq (sep : Char) (cs : List Char) : Text.splitOnce? sep cs =
    if sep ∈ cs then some (cs.takeWhile fun c => c ≠ sep, (cs.dropWhile fun c => c ≠ sep).drop 1)
    else none := by
  induction cs with
  | nil => rfl
  | cons c cs ih =>
    by_cases hc : c = sep
    · simp [Text.splitOnce?, hc]
    · have hsep : sep ≠ c := Ne.symm hc
      rw [Text.splitOnce?, if_neg hc, ih]
      by_cases hmem : sep ∈ cs <;> simp [hmem, hc, hsep]

/-- Without a point in the name of the table, the first point stands behind it. -/
theorem parts_qualified {table : String} (h : '.' ∉ table.toList) (column : String) :
    tablePart (table ++ "." ++ column) = table ∧ columnPart (table ++ "." ++ column) = column := by
  have hno : ∀ c ∈ table.toList, decide (c ≠ '.') = true := by
    intro c hc
    refine decide_eq_true ?_
    rintro rfl
    exact h hc
  have hchars : (table ++ "." ++ column).toList = table.toList ++ '.' :: column.toList := by simp
  rw [tablePart, columnPart, hchars, List.takeWhile_append_of_pos hno,
    List.dropWhile_append_of_pos hno]
  simp

/-! ### Looking names up -/

namespace StatementFile

variable (f : StatementFile)

/-- The first table of a name that a file declares. -/
def firstTable? (name : String) : Option TableDeclaration := f.tables.find? fun t => t.name = name

/-- A table of the name is declared. -/
def Declares (name : String) : Prop := ∃ t ∈ f.tables, t.name = name

/-- A written name has a point. In front of the first one stands the name of a table, and behind it
a name that is listed for a column of the first such table. -/
def Resolves (name : String) : Prop :=
  '.' ∈ name.toList ∧ ∃ t, f.firstTable? (tablePart name) = some t ∧
    columnPart name ∈ t.columns.map Prod.fst

end StatementFile

theorem firstTable?_eq_none_iff (f : StatementFile) (name : String) :
    f.firstTable? name = none ↔ ¬ f.Declares name := by
  simp [StatementFile.firstTable?, StatementFile.Declares]

theorem table_schema (f : StatementFile) (name : String) : f.schema.table name =
    found (.unknownTable name) ((f.firstTable? name).map TableDeclaration.table) := by
  rw [Schema.table, StatementFile.schema, List.find?_map, StatementFile.firstTable?]
  congr 3
  funext t
  simp [name_table]

theorem column?_eq_none_iff (t : TableDeclaration) (name : String) :
    t.table.column? name = none ↔ name ∉ t.columns.map Prod.fst := by
  rw [TableDeclaration.table, column?_ofFields, Option.map_eq_none_iff, List.find?_eq_none]
  simp only [List.mem_reverse, List.mem_map, decide_eq_true_eq]
  constructor
  · rintro h ⟨field, hfield, hname⟩
    exact h field hfield hname
  · intro h field hfield hname
    exact h ⟨field, hfield, hname⟩

/-- What a written name stands for. -/
theorem column_eq_ok_iff (f : StatementFile) (name : String) (c : Column) :
    f.schema.column name = .ok c ↔ '.' ∈ name.toList ∧
      ∃ t, f.firstTable? (tablePart name) = some t ∧
        t.table.column? (columnPart name) = some c := by
  rw [Schema.column, splitOnce?_eq]
  by_cases hpoint : '.' ∈ name.toList
  · rw [if_pos hpoint]
    show (f.schema.table (tablePart name) >>= fun t =>
      found (.unknownColumn name) (t.column? (columnPart name))) = _ ↔ _
    rw [table_schema]
    cases ht : f.firstTable? (tablePart name) with
    | none => simp [found, invalid, bind, Except.bind]
    | some t =>
      show found _ (t.table.column? (columnPart name)) = _ ↔ _
      cases hc : t.table.column? (columnPart name) with
      | none => simp [found, invalid, hc]
      | some d => simp [found, hpoint, hc]
  · simp [hpoint, found, invalid, bind, Except.bind]

theorem resolves_iff (f : StatementFile) (name : String) :
    (∃ c, f.schema.column name = .ok c) ↔ f.Resolves name := by
  have hcolumn (t : TableDeclaration) :
      (∃ c, t.table.column? (columnPart name) = some c) ↔
        columnPart name ∈ t.columns.map Prod.fst := by
    rw [← Option.ne_none_iff_exists', Ne, column?_eq_none_iff, Classical.not_not]
  simp only [column_eq_ok_iff, StatementFile.Resolves, ← hcolumn]
  constructor
  · rintro ⟨c, hpoint, t, ht, hc⟩
    exact ⟨hpoint, t, ht, c, hc⟩
  · rintro ⟨hpoint, t, ht, c, hc⟩
    exact ⟨c, hpoint, t, ht, hc⟩

/-- A column that is found has the two names that are written, and the last type that is listed for
it. -/
theorem column_parts {f : StatementFile} {name : String} {c : Column}
    (h : f.schema.column name = .ok c) : c.table = tablePart name ∧ c.name = columnPart name ∧
      f.declaredType? c.table c.name = some c.type := by
  obtain ⟨hname, hpoint, htype⟩ := column_eq_ok h
  obtain ⟨htable, hcolumn⟩ := parts_qualified hpoint c.name
  rw [← hname] at htable hcolumn
  exact ⟨htable.symm, hcolumn.symm, htype⟩

/-! ### Names without points -/

theorem nodup_fields (t : TableDeclaration) : (t.table.fields.map Prod.fst).Nodup := by
  rw [TableDeclaration.table, Table.ofFields, name_foldl_addColumn]
  exact nodup_foldl_put Prod.fst t.columns

/-- A column of a table is found by its name. -/
theorem column?_of_mem {t : TableDeclaration} {c : Column} (h : c ∈ t.table.columns) :
    c.table = t.name ∧ t.table.column? c.name = some c := by
  obtain ⟨field, hfield, rfl⟩ := List.mem_map.1 h
  refine ⟨name_table t, ?_⟩
  have hfound := find?_of_nodup Prod.fst (nodup_fields t) hfield
  rw [Table.column?, Table.columns, List.find?_map]
  exact congrArg (Option.map _) hfound

/-- With different table names that have no point, every column that is declared is found under the
name of its table, a point and its own name. -/
theorem column_qualifiedName {f : StatementFile} (hnames : (f.tables.map TableDeclaration.name).Nodup)
    (hpoints : ∀ t ∈ f.tables, '.' ∉ t.name.toList) {t : Table} (ht : t ∈ f.schema) {c : Column}
    (hc : c ∈ t.columns) : f.schema.column c.qualifiedName = .ok c := by
  obtain ⟨declared, hdeclared, rfl⟩ := List.mem_map.1 ht
  obtain ⟨htable, hcolumn⟩ := column?_of_mem hc
  have hpoint : '.' ∉ c.table.toList := htable ▸ hpoints declared hdeclared
  obtain ⟨htablePart, hcolumnPart⟩ := parts_qualified hpoint c.name
  rw [column_eq_ok_iff, Column.qualifiedName, htablePart, hcolumnPart]
  refine ⟨by simp, declared, ?_, hcolumn⟩
  rw [htable]
  exact find?_of_nodup TableDeclaration.name hnames hdeclared

end SqlUpdate
