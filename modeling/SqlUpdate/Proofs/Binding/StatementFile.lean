import SqlUpdate.StatementFile.Resolve
import SqlUpdate.Proofs.Binding.Entries
import SqlUpdate.Proofs.Binding.Order
/-!
# What the statement of a file binds

The arguments of a statement that a file describes can be read off the file, without putting the
statement together: the last value that is assigned to each column, and the values that columns are
compared with, each with the type that the file declares for the column.

* `StatementFile.declaredType?` — the last type listed for a column in the first table of a name.
* `Json.Denotes` — the values that JSON scalars stand for.
* `StatementFile.Binds` — an argument has the declared type of a column and the value of a scalar.
* `arguments_statement` — all arguments, in order.
-/

namespace SqlUpdate

/-! ### Declared types -/

theorem retype_eq_put (name : String) (type : ColumnType) (fs : List (String × ColumnType)) :
    retype name type fs = put Prod.fst (name, type) fs := by
  induction fs with
  | nil => rfl
  | cons f fs ih => rw [retype, put, ih]

theorem reassign_eq_put (c : Column) (v : Assigned) (as : List Assignment) :
    reassign c v as = put (fun a => a.column.key) ⟨c, v⟩ as := by
  induction as with
  | nil => rfl
  | cons a as ih => rw [reassign, put, ih]

/-- The type that a file declares for a column: the last one that is listed for it in the first
table of the name. -/
def StatementFile.declaredType? (f : StatementFile) (table column : String) : Option ColumnType := do
  let t ← f.tables.find? fun t => t.name = table
  (t.columns.reverse.find? fun c => c.1 = column).map Prod.snd

theorem name_foldl_addColumn (t : Table) (fields : List (String × ColumnType)) :
    fields.foldl (fun t f => t.addColumn f.1 f.2) t
      = ⟨t.name, fields.foldl (fun fs f => put Prod.fst f fs) t.fields⟩ := by
  induction fields generalizing t with
  | nil => rfl
  | cons f fields ih =>
    rw [List.foldl_cons, ih, List.foldl_cons, Table.addColumn, retype_eq_put]

/-- A column has the last type that is listed for it. -/
theorem column?_ofFields (name column : String) (fields : List (String × ColumnType)) :
    (Table.ofFields name fields).column? column
      = (fields.reverse.find? fun f => f.1 = column).map fun f => ⟨name, f.1, f.2⟩ := by
  rw [Table.ofFields, name_foldl_addColumn, Table.column?, Table.columns, List.find?_map]
  exact congrArg (Option.map _) (find?_foldl_put Prod.fst fields column)

theorem found_eq_ok {α : Type} {cause : InvalidArgument} {o : Option α} {a : α}
    (h : found cause o = .ok a) : o = some a := by
  cases o with
  | none => cases h
  | some b => rw [Except.ok.inj h]

theorem name_table (t : TableDeclaration) : t.table.name = t.name := by
  rw [TableDeclaration.table, Table.ofFields, name_foldl_addColumn]
  rfl

/-- A column that is found has the names that are written around the first point, and the declared
type. -/
theorem column_eq_ok {f : StatementFile} {name : String} {c : Column}
    (h : f.schema.column name = .ok c) : name = c.table ++ "." ++ c.name ∧
      '.' ∉ c.table.toList ∧ f.declaredType? c.table c.name = some c.type := by
  obtain ⟨⟨before, behind⟩, hsplit, h⟩ := bind_eq_ok h
  obtain ⟨t, ht, h⟩ := bind_eq_ok h
  have hcut := found_eq_ok hsplit
  have hname := Text.splitOnce?_eq_some hcut
  have hpoint := Text.not_mem_of_splitOnce?_eq_some hcut
  have hfound := found_eq_ok ht
  rw [StatementFile.schema, List.find?_map] at hfound
  obtain ⟨declared, hdeclared, rfl⟩ := Option.map_eq_some_iff.1 hfound
  have htable : declared.name = String.ofList before := by
    simpa [name_table] using List.find?_some hdeclared
  have hcolumn := found_eq_ok h
  rw [TableDeclaration.table, column?_ofFields] at hcolumn
  obtain ⟨⟨column, type⟩, hlast, rfl⟩ := Option.map_eq_some_iff.1 hcolumn
  have hcolumn : column = String.ofList behind := by simpa using List.find?_some hlast
  subst hcolumn
  show name = declared.name ++ "." ++ String.ofList behind ∧ _
  rw [htable]
  refine ⟨?_, by rwa [String.toList_ofList], ?_⟩
  · rw [← String.toList_inj, hname]
    simp
  · rw [StatementFile.declaredType?]
    have hfirst : f.tables.find? (fun t => t.name = String.ofList before) = some declared := by
      rw [← hdeclared]
      congr 1
      funext t
      simp [name_table]
    rw [hfirst]
    show (declared.columns.reverse.find? _).map Prod.snd = _
    rw [hlast]
    rfl

/-! ### Scalars -/

/-- The values that JSON scalars stand for. A whole number that does not fit 64 bits with a sign is
rounded to a double. -/
inductive Json.Denotes : Json → Value → Prop
  | null : Denotes .null .null
  | bool (b : Bool) : Denotes (.bool b) (.bool b)
  | int {n : Numeral} {i : Int64} : Json.numberOf? n = some (.int i.toInt) →
      Denotes (.number n) (.int i)
  | rounded {n : Numeral} {i : Int} : Json.numberOf? n = some (.int i) →
      (∀ k : Int64, k.toInt ≠ i) →
      Denotes (.number n) (.float (Binary64.ofRatio (decide (i < 0)) i.natAbs 1))
  | float {n : Numeral} {x : Binary64} : Json.numberOf? n = some (.float x) →
      Denotes (.number n) (.float x)
  | text (s : String) : Denotes (.string (some s)) (.text s)

theorem denotes_of_number {n : Numeral} {v : Value}
    (h : Value.ofScalar? (.number n) = some v) : Json.Denotes (.number n) v := by
  simp only [Value.ofScalar?, Value.intOfJson?, Value.floatOfJson?] at h
  cases hn : Json.numberOf? n with
  | none =>
    rw [hn] at h
    cases h
  | some number =>
    rw [hn] at h
    cases number with
    | float x =>
      obtain rfl : Value.float x = v := Option.some.inj h
      exact .float hn
    | int i =>
      change (Value.ofInt? i <|> _) = some v at h
      by_cases hi : Int64.minValue.toInt ≤ i ∧ i ≤ Int64.maxValue.toInt
      · rw [Value.ofInt?, if_pos hi] at h
        obtain rfl : Value.int (Int64.ofInt i) = v := Option.some.inj h
        have hround : (Int64.ofInt i).toInt = i := Int64.toInt_ofInt_of_le hi.1 (by
          have := hi.2
          have hmax : Int64.maxValue.toInt = 2 ^ 63 - 1 := by decide
          omega)
        exact .int (by rw [hround]; exact hn)
      · rw [Value.ofInt?, if_neg hi] at h
        obtain rfl : Value.float _ = v := Option.some.inj h
        refine .rounded hn fun k hk => hi ?_
        rw [← hk]
        exact ⟨k.minValue_le_toInt, k.toInt_le⟩

theorem denotes_of_ofScalar {j : Json} {v : Value} (h : Value.ofScalar j = .ok v) :
    j.Denotes v := by
  have hsome := found_eq_ok h
  cases j with
  | null => cases hsome; exact .null
  | bool b => cases hsome; exact .bool b
  | number n => exact denotes_of_number hsome
  | string s =>
    obtain ⟨t, rfl, rfl⟩ := Option.map_eq_some_iff.1 hsome
    exact .text t
  | array items => cases hsome
  | object members => cases hsome

/-! ### Assignments and conditions -/

/-- An argument has the type that is declared for a column, and the value of the scalar that is
given. -/
def StatementFile.Binds (f : StatementFile) (name : String) (given : Option Json) (a : Argument) :
    Prop :=
  ∃ j table column, given = some j ∧ j.Denotes a.value ∧ name = table ++ "." ++ column ∧
    '.' ∉ table.toList ∧ f.declaredType? table column = some a.type

theorem binds_of_resolved {f : StatementFile} {name : String} {c : Column} {j : Json} {v : Value}
    (hc : f.schema.column name = .ok c) (hv : Value.ofScalar j = .ok v) :
    f.Binds name (some j) ⟨c.type, v⟩ := by
  obtain ⟨hname, hpoint, htype⟩ := column_eq_ok hc
  exact ⟨j, c.table, c.name, rfl, denotes_of_ofScalar hv, hname, hpoint, htype⟩

theorem forall₂_of_mapM_eq_ok {α β ε : Type} {f : α → Except ε β} {l : List α} {m : List β}
    (h : l.mapM f = .ok m) : List.Forall₂ (fun x y => f x = .ok y) l m := by
  induction l generalizing m with
  | nil => cases h; exact .nil
  | cons x l ih =>
    rw [List.mapM_cons] at h
    obtain ⟨y, hy, h⟩ := bind_eq_ok h
    obtain ⟨ys, hys, h⟩ := bind_eq_ok h
    cases h
    exact .cons hy (ih hys)

/-- What entries bind, if some of them bind one argument each and the others bind nothing. -/
theorem forall₂_flatMap {α β : Type} {R : α → β → Prop} {S : α → Argument → Prop} (p : α → Bool)
    (bound : β → List Argument)
    (hR : ∀ x y, R x y → if p x then ∃ a, bound y = [a] ∧ S x a else bound y = [])
    {l : List α} {m : List β} (h : List.Forall₂ R l m) :
    List.Forall₂ S (l.filter p) (m.flatMap bound) := by
  induction h with
  | nil => exact .nil
  | @cons x y l m hxy _ ih =>
    have hentry := hR x y hxy
    by_cases hp : p x = true
    · rw [if_pos hp] at hentry
      obtain ⟨a, ha, hS⟩ := hentry
      rw [List.filter_cons_of_pos hp, List.flatMap_cons, ha]
      exact .cons hS ih
    · rw [if_neg hp] at hentry
      rw [List.filter_cons_of_neg hp, List.flatMap_cons, hentry]
      exact ih

theorem assignment_resolved {f : StatementFile} {d : AssignmentDeclaration} {a : Assignment}
    (h : d.resolve f.schema = .ok a) : f.schema.column d.column = .ok a.column ∧
      d.value.isSome = d.source.isNone ∧
      if d.value.isSome then ∃ b, a.arguments = [b] ∧ f.Binds d.column d.value b
      else a.arguments = [] := by
  obtain ⟨c, hc, h⟩ := bind_eq_ok h
  split at h
  · rename_i j hvalue hsource
    obtain ⟨v, hv, h⟩ := bind_eq_ok h
    cases h
    refine ⟨hc, by rw [hvalue, hsource]; rfl, ?_⟩
    rw [hvalue, Option.isSome_some, if_pos rfl]
    exact ⟨⟨c.type, v⟩, rfl, binds_of_resolved hc hv⟩
  · rename_i source hvalue hsource
    obtain ⟨e, he, h⟩ := bind_eq_ok h
    cases h
    refine ⟨hc, by rw [hvalue, hsource]; rfl, ?_⟩
    rw [hvalue]
    rfl
  · cases h

/-- Whether a column is compared with a value. -/
def ConditionDeclaration.hasValue (d : ConditionDeclaration) : Bool :=
  decide (d.comparison ≠ .isNull ∧ d.comparison ≠ .isNotNull)

theorem condition_resolved {f : StatementFile} {d : ConditionDeclaration} {e : Expr}
    (h : d.resolve f.schema = .ok e) :
    if d.hasValue then ∃ b, e.arguments = [b] ∧ f.Binds d.column d.value b
    else e.arguments = [] := by
  obtain ⟨c, hc, h⟩ := bind_eq_ok h
  split at h
  · rename_i op hop
    obtain ⟨j, hj, h⟩ := bind_eq_ok h
    obtain ⟨v, hv, h⟩ := bind_eq_ok h
    cases h
    rw [ConditionDeclaration.hasValue, hop, if_pos (by simp), found_eq_ok hj]
    exact ⟨⟨c.type, v⟩, rfl, binds_of_resolved hc hv⟩
  · rename_i hop
    cases h
    rw [ConditionDeclaration.hasValue, hop]
    rfl
  · rename_i hop
    cases h
    rw [ConditionDeclaration.hasValue, hop]
    rfl

/-! ### The statement -/

theorem foldl_assign (u : Update) (as : List Assignment) :
    as.foldl (fun u a => u.assign a.column a.assigned) u
      = { u with
          assignments := as.foldl (fun bs a => put (fun a => a.column.key) a bs) u.assignments }
      := by
  induction as generalizing u with
  | nil => rfl
  | cons a as ih =>
    rw [List.foldl_cons, ih, List.foldl_cons, Update.assign, reassign_eq_put]

/-- Further conditions bind their arguments behind those of the conditions before. -/
theorem foldl_alsoFilterBy (u : Update) (es : List Expr) :
    (es.foldl Update.alsoFilterBy u).target = u.target ∧
      (es.foldl Update.alsoFilterBy u).assignments = u.assignments ∧
      (es.foldl Update.alsoFilterBy u).filterArguments
        = u.filterArguments ++ es.flatMap Expr.arguments := by
  induction es generalizing u with
  | nil => exact ⟨rfl, rfl, (List.append_nil _).symm⟩
  | cons e es ih =>
    obtain ⟨htarget, hassignments, harguments⟩ := ih (u.alsoFilterBy e)
    have hone : (u.alsoFilterBy e).filterArguments = u.filterArguments ++ e.arguments := by
      rw [Update.filterArguments, Update.filterArguments, Update.alsoFilterBy]
      cases u.filter <;> rfl
    rw [List.foldl_cons, List.flatMap_cons, ← List.append_assoc, ← hone]
    exact ⟨htarget, hassignments, harguments⟩

/-- Whether a file updates a join. -/
def TargetDeclaration.isJoin : TargetDeclaration → Bool
  | .table _ => false
  | .join _ _ => true

theorem target_resolved {schema : Schema} {d : TargetDeclaration} {t : Target}
    (h : d.resolve schema = .ok t) : (d.isJoin = true ∧ ∃ j, t = .join j) ∨
      (d.isJoin = false ∧ ∃ table, t = .table table) := by
  cases d with
  | table name =>
    obtain ⟨table, -, h⟩ := bind_eq_ok h
    cases h
    exact .inr ⟨rfl, table, rfl⟩
  | join lead parts =>
    obtain ⟨table, -, h⟩ := bind_eq_ok h
    obtain ⟨parts, -, h⟩ := bind_eq_ok h
    cases h
    exact .inl ⟨rfl, _, rfl⟩

theorem filterFirst_of_resolved {schema : Schema} {d : TargetDeclaration} {u : Update}
    (h : d.resolve schema = .ok u.target) (ctx : Context) :
    u.filterFirst ctx = decide (d.isJoin = true ∧ ctx.dialect = .oracle) := by
  rw [Update.filterFirst]
  rcases target_resolved h with ⟨hd, j, ht⟩ | ⟨hd, table, ht⟩
  · rw [ht, hd]
    simp [Context.isOracle]
  · rw [ht, hd]
    simp

/-- A statement that a file describes has the assignments and conditions of the file. -/
theorem statement_eq_ok {f : StatementFile} {u : Update} (h : f.statement = .ok u) :
    f.target.resolve f.schema = .ok u.target ∧
      ∃ as es, f.assignments.mapM (AssignmentDeclaration.resolve f.schema) = .ok as ∧
        f.conditions.mapM (ConditionDeclaration.resolve f.schema) = .ok es ∧
        u.assignments = lastOfEach (fun a => a.column.key) as ∧
        u.filterArguments = es.flatMap Expr.arguments := by
  obtain ⟨t, ht, h⟩ := bind_eq_ok h
  obtain ⟨as, has, h⟩ := bind_eq_ok h
  obtain ⟨es, hes, h⟩ := bind_eq_ok h
  obtain ⟨htarget, hassignments, harguments⟩ :=
    foldl_alsoFilterBy (as.foldl (fun u a => u.assign a.column a.assigned) (Update.of t)) es
  rw [foldl_assign] at htarget hassignments harguments
  have hlimit : ∀ w : Update, u = f.limit.elim w w.limitTo →
      u.target = w.target ∧ u.assignments = w.assignments ∧
        u.filterArguments = w.filterArguments := by
    rintro w rfl
    cases f.limit <;> exact ⟨rfl, rfl, rfl⟩
  obtain ⟨ht', ha', hf'⟩ := hlimit _ (Except.ok.inj h).symm
  rw [foldl_assign] at ht' ha' hf'
  rw [ht', htarget]
  refine ⟨ht, as, es, has, hes, ?_, ?_⟩
  · rw [ha', hassignments]
    exact foldl_put (fun a : Assignment => a.column.key) as
  · rw [hf', harguments]
    rfl

/-- **A file says what its statement binds.** The arguments of a statement that a file describes
come in one batch, or in none if there are no arguments. One group of them has, for each assigned
column in the order in which columns are first assigned, the value that is assigned last, unless
another column is copied last. The other group has the values that columns are compared with, in
order. Each has the type that the file declares for the column. The assigned values come first,
except on a join in an Oracle database. -/
theorem arguments_statement {f : StatementFile} {u : Update} (h : f.statement = .ok u) :
    ∃ assigned compared : List Argument,
      List.Forall₂ (fun d a => f.Binds d.column d.value a)
        ((lastOfEach AssignmentDeclaration.column f.assignments).filter fun d => d.value.isSome)
        assigned ∧
      (∀ d ∈ f.assignments, d.value.isSome = d.source.isNone) ∧
      List.Forall₂ (fun d a => f.Binds d.column d.value a)
        (f.conditions.filter ConditionDeclaration.hasValue) compared ∧
      ∀ ctx, u.arguments ctx =
        let all := if f.target.isJoin = true ∧ ctx.dialect = .oracle then compared ++ assigned
          else assigned ++ compared
        if all = [] then [] else [all] := by
  obtain ⟨htarget, as, es, has, hes, hassignments, hfilter⟩ := statement_eq_ok h
  have hresolved := forall₂_of_mapM_eq_ok has
  -- one column is written in one way only, since the first point ends the name of the table
  have hkeys : ∀ (d : AssignmentDeclaration) (a : Assignment) (d' : AssignmentDeclaration)
      (a' : Assignment), d.resolve f.schema = .ok a → d'.resolve f.schema = .ok a' →
      (d.column = d'.column ↔ a.column.key = a'.column.key) := by
    intro d a d' a' ha ha'
    have hc := (assignment_resolved ha).1
    have hc' := (assignment_resolved ha').1
    constructor
    · intro hname
      rw [hname, hc'] at hc
      rw [Except.ok.inj hc]
    · intro hkey
      obtain ⟨htable, hname⟩ : a.column.table = a'.column.table ∧ a.column.name = a'.column.name :=
        Prod.mk.inj hkey
      rw [(column_eq_ok hc).1, (column_eq_ok hc').1, htable, hname]
  have hassigned := forall₂_flatMap (fun d => d.value.isSome) Assignment.arguments
    (fun d a hd => (assignment_resolved hd).2.2) (forall₂_lastOfEach hkeys hresolved)
  have hcompared := forall₂_flatMap ConditionDeclaration.hasValue Expr.arguments
    (fun d e hd => condition_resolved hd) (forall₂_of_mapM_eq_ok hes)
  rw [← hassignments] at hassigned
  rw [← hfilter] at hcompared
  have honce := ((List.forall₂_and_left f.assignments as).1
    (hresolved.imp fun d a hd => And.intro (assignment_resolved hd).2.1 hd)).1
  refine ⟨_, _, hassigned, honce, hcompared, fun ctx => ?_⟩
  rw [arguments_eq, Update.argumentList, filterFirst_of_resolved htarget]
  simp only [decide_eq_true_eq]
  rfl

/-- A file with a column that has two types and a table that is declared twice. A note is assigned
twice, and a condition needs no value. -/
def fileExample : StatementFile where
  tables := [⟨"users", [("id", .varchar), ("name", .varchar), ("name", .text)]⟩,
    ⟨"data", [("note", .varchar), ("score", .integer)]⟩, ⟨"users", [("name", .blob)]⟩]
  target := .join "users" [⟨"data", .inner, [("users.id", "data.note")]⟩]
  assignments := [⟨"data.note", some (.ofString "old"), none⟩,
    ⟨"data.score", none, some "data.note"⟩, ⟨"data.note", some (.ofString "new"), none⟩]
  conditions := [⟨"users.id", .isNotNull, none⟩, ⟨"users.name", .compare .eq, some .null⟩]
  limit := none

/-- The last note is bound, in front of the condition or, in an Oracle database, behind it. -/
theorem arguments_statement_fileExample :
    ∃ u assigned compared, fileExample.statement = .ok u ∧
      List.Forall₂ (fun (d : AssignmentDeclaration) a => fileExample.Binds d.column d.value a)
        [⟨"data.note", some (.ofString "new"), none⟩] assigned ∧
      List.Forall₂ (fun (d : ConditionDeclaration) a => fileExample.Binds d.column d.value a)
        [⟨"users.name", .compare .eq, some .null⟩] compared ∧
      u.arguments (.of .oracle)
        = (if compared ++ assigned = [] then [] else [compared ++ assigned]) ∧
      u.arguments (.of .oracle) = [[⟨.text, .null⟩, ⟨.varchar, .text "new"⟩]] ∧
      u.arguments (.of .mysql) = [[⟨.varchar, .text "new"⟩, ⟨.text, .null⟩]] := by
  obtain ⟨assigned, compared, ha, -, hc, hargs⟩ := arguments_statement (f := fileExample) rfl
  exact ⟨_, assigned, compared, rfl, ha, hc, hargs (.of .oracle), rfl, rfl⟩

end SqlUpdate
