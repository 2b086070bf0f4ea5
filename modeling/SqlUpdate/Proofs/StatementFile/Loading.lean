import SqlUpdate.Proofs.Statement.Acceptance
import SqlUpdate.Proofs.StatementFile.Names
import SqlUpdate.StatementFile.Json
/-!
# When a statement file loads

A file describes a statement if its names resolve and its values can be bound. The checks are listed
here in the order in which they are made, and building the statement is shown to follow the list.

* `StatementFile.checks` — the checks of the target, then of the assignments, then of the conditions.
* `decides_mapM` — what is done to all items of a list makes the checks of each in turn.
* `StatementFile.Loads` — what a file that loads is like, without any order.
* `statement_loads` — a file that was read gives a statement exactly if it is like that, and the
  error of its first check that is not passed otherwise.
-/

namespace SqlUpdate

/-! ### Checks -/

/-- A check that finds an argument invalid. -/
def refuse (fault : Prop) (cause : InvalidArgument) : Check :=
  .refuseIf fault (.invalidArgument cause)

/-- Whether a document is no array and no object. -/
def Json.isScalar : Json → Bool
  | .array _ | .object _ => false
  | _ => true

/-- The check of a value. -/
def scalarCheck (j : Json) : Check :=
  refuse (j.isScalar = false) (.notScalar (String.ofList (j.canonical?.getD j).compact))

namespace StatementFile

variable (f : StatementFile)

def tableCheck (name : String) : Check := refuse (¬ f.Declares name) (.unknownTable name)

/-- The checks of the name of a column. -/
def columnChecks (name : String) : List Check :=
  [refuse ('.' ∉ name.toList) (.notQualified name), f.tableCheck (tablePart name),
    refuse (¬ f.Resolves name) (.unknownColumn name)]

/-- The checks of a joined table: its pairs of columns come before the table itself. -/
def partChecks (p : PartDeclaration) : List Check :=
  (p.pairs.flatMap fun q => f.columnChecks q.1 ++ f.columnChecks q.2) ++ [f.tableCheck p.table]

def targetChecks : TargetDeclaration → List Check
  | .table name => [f.tableCheck name]
  | .join lead parts => f.tableCheck lead :: parts.flatMap f.partChecks

/-- The checks of an assignment. -/
def assignmentChecks (a : AssignmentDeclaration) : List Check :=
  f.columnChecks a.column ++
    refuse (a.value.isSome ≠ a.source.isNone) (.assignedOnce a.column) ::
      (a.value.toList.map scalarCheck ++ a.source.toList.flatMap f.columnChecks)

/-- The checks of a condition. A value that nothing is compared with is not looked at. -/
def conditionChecks (d : ConditionDeclaration) : List Check :=
  f.columnChecks d.column ++
    if d.hasValue then
      refuse (d.value = none) (.missingValue d.column) :: d.value.toList.map scalarCheck
    else []

/-- All checks of a file, in the order in which they are made. -/
def checks : List Check :=
  f.targetChecks f.target ++ (f.assignments.flatMap f.assignmentChecks ++
    f.conditions.flatMap f.conditionChecks)

end StatementFile

/-- A check that is passed can stand in front of those that a computation makes. -/
theorem Decides.behind {α : Type} {x : Except Error α} {cs : List Check} (h : Decides x cs)
    {fault : Prop} {cause : InvalidArgument} (hpassed : ¬ fault) :
    Decides x (refuse fault cause :: cs) := by
  have hnothing : Decides (.ok ()) [refuse fault cause] :=
    decides_refuseIf (fun hfault => absurd hfault hpassed) fun _ => ⟨(), rfl⟩
  exact hnothing.bind fun _ _ => h

/-- No check is made behind one that is not passed. -/
theorem decides_invalid {α : Type} {cs : List Check} {fault : Prop} {cause : InvalidArgument}
    (h : fault) : Decides (invalid cause : Except Error α) (refuse fault cause :: cs) := by
  have hfault : Decides (invalid cause : Except Error α) [refuse fault cause] :=
    decides_refuseIf (fun _ => rfl) fun hno => absurd h hno
  show Decides (invalid cause >>= fun a => .ok a) ([refuse fault cause] ++ cs)
  exact hfault.bind nofun

/-! ### Looking names up -/

theorem decides_found {α : Type} (cause : InvalidArgument) (o : Option α) :
    Decides (found cause o) [refuse (o = none) cause] := by
  refine decides_refuseIf (fun h => ?_) fun h => ?_
  · rw [h]
    rfl
  · obtain ⟨a, rfl⟩ := Option.ne_none_iff_exists'.1 h
    exact ⟨a, rfl⟩

theorem decides_table (f : StatementFile) (name : String) :
    Decides (f.schema.table name) [f.tableCheck name] := by
  have hnone : (f.firstTable? name).map TableDeclaration.table = none ↔ ¬ f.Declares name := by
    rw [Option.map_eq_none_iff, firstTable?_eq_none_iff]
  rw [table_schema, StatementFile.tableCheck, ← hnone]
  exact decides_found _ _

theorem decides_column (f : StatementFile) (name : String) :
    Decides (f.schema.column name) (f.columnChecks name) := by
  have hsplit : Text.splitOnce? '.' name.toList = none ↔ '.' ∉ name.toList := by
    rw [splitOnce?_eq]
    split <;> simp_all
  have hcut := decides_found (.notQualified name) (Text.splitOnce? '.' name.toList)
  rw [hsplit] at hcut
  refine hcut.bind fun parts hparts => ?_
  have hsome := found_eq_ok hparts
  rw [splitOnce?_eq] at hsome
  split at hsome
  · rename_i hpoint
    obtain rfl := Option.some.inj hsome
    refine (decides_table f (tablePart name)).bind fun t ht => ?_
    rw [table_schema] at ht
    obtain ⟨declared, hdeclared, rfl⟩ := Option.map_eq_some_iff.1 (found_eq_ok ht)
    have hnone : declared.table.column? (columnPart name) = none ↔ ¬ f.Resolves name := by
      simp [column?_eq_none_iff, StatementFile.Resolves, hpoint, hdeclared]
    rw [← hnone]
    exact decides_found _ _
  · cases hsome

/-- What is done to all items of a list makes the checks of each in turn. -/
theorem decides_mapM {α β : Type} {g : α → Except Error β} {checks : α → List Check} {l : List α}
    (h : ∀ x ∈ l, Decides (g x) (checks x)) : Decides (l.mapM g) (l.flatMap checks) := by
  induction l with
  | nil => exact decides_ok []
  | cons x l ih =>
    rw [List.mapM_cons, List.flatMap_cons]
    refine (h x List.mem_cons_self).bind fun y _ => ?_
    have hrest := (ih fun z hz => h z (List.mem_cons_of_mem x hz)).map fun ys => y :: ys
    cases hl : l.mapM g with
    | error e => rwa [hl] at hrest
    | ok ys => rwa [hl] at hrest

/-! ### The parts of a file -/

/-- A last step that always succeeds makes no check. -/
theorem Decides.then_ok {α β : Type} {x : Except Error α} {cs : List Check} (h : Decides x cs)
    (g : α → β) : Decides (x >>= fun a => .ok (g a)) cs := by
  rw [← List.append_nil cs]
  exact h.bind fun a _ => decides_ok (g a)

theorem decides_pair (f : StatementFile) (q : String × String) :
    Decides (resolvePair f.schema q) (f.columnChecks q.1 ++ f.columnChecks q.2) :=
  (decides_column f q.1).bind fun _ _ => (decides_column f q.2).then_ok _

theorem decides_part (f : StatementFile) (p : PartDeclaration) :
    Decides (p.resolve f.schema) (f.partChecks p) :=
  (decides_mapM fun q _ => decides_pair f q).bind fun _ _ => (decides_table f p.table).then_ok _

theorem decides_target (f : StatementFile) (t : TargetDeclaration) :
    Decides (t.resolve f.schema) (f.targetChecks t) := by
  cases t with
  | table name => exact (decides_table f name).then_ok _
  | join lead parts =>
    have hlead := decides_table f lead
    have hparts := decides_mapM (l := parts) fun p _ => decides_part f p
    exact hlead.bind fun t _ => hparts.then_ok fun parts => Target.join ⟨t, parts⟩

/-- Every document with a canonical form is a value, unless it is an array or an object. -/
theorem ofScalar?_eq_none_iff {j : Json} (h : j.canonical?.isSome) :
    Value.ofScalar? j = none ↔ j.isScalar = false := by
  cases j with
  | null => simp [Value.ofScalar?, Json.isScalar]
  | bool b => simp [Value.ofScalar?, Json.isScalar]
  | number n =>
    simp only [Json.canonical?, Option.isSome_map] at h
    obtain ⟨number, hn⟩ := Option.isSome_iff_exists.1 h
    cases number <;>
      simp [Value.ofScalar?, Json.isScalar, Value.intOfJson?, Value.floatOfJson?, hn]
  | string s =>
    simp only [Json.canonical?, Option.isSome_map] at h
    obtain ⟨t, rfl⟩ := Option.isSome_iff_exists.1 h
    simp [Value.ofScalar?, Json.isScalar]
  | array items => simp [Value.ofScalar?, Json.isScalar]
  | object members => simp [Value.ofScalar?, Json.isScalar]

theorem decides_ofScalar {j : Json} (h : j.canonical?.isSome) :
    Decides (Value.ofScalar j) [scalarCheck j] := by
  rw [scalarCheck, ← ofScalar?_eq_none_iff h]
  exact decides_found _ _

theorem decides_assignment (f : StatementFile) {a : AssignmentDeclaration}
    (h : ∀ j, a.value = some j → j.canonical?.isSome) :
    Decides (a.resolve f.schema) (f.assignmentChecks a) := by
  refine (decides_column f a.column).bind fun c _ => ?_
  obtain ⟨column, value, source⟩ := a
  match value, source with
  | some j, none => exact ((decides_ofScalar (h j rfl)).then_ok _).behind (by simp)
  | none, some s =>
    have hsource := (decides_column f s).then_ok fun d => (⟨c, .expr (.column d)⟩ : Assignment)
    exact Decides.behind (by simpa using hsource) (by simp)
  | some j, some s => exact decides_invalid (by simp)
  | none, none => exact decides_invalid (by simp)

theorem decides_condition (f : StatementFile) {d : ConditionDeclaration}
    (h : ∀ j, d.value = some j → j.canonical?.isSome) :
    Decides (d.resolve f.schema) (f.conditionChecks d) := by
  refine (decides_column f d.column).bind fun c _ => ?_
  obtain ⟨column, comparison, value⟩ := d
  cases comparison with
  | compare op =>
    rw [if_pos (by simp [ConditionDeclaration.hasValue])]
    refine (decides_found _ value).bind fun j hj => ?_
    obtain rfl : value = some j := found_eq_ok hj
    exact (decides_ofScalar (h j rfl)).then_ok _
  | isNull => exact decides_ok _
  | isNotNull => exact decides_ok _

/-! ### Files that were read -/

/-- Every value that a file gives has a canonical form, as all documents have that are read. -/
structure StatementFile.ValuesRead (f : StatementFile) : Prop where
  assignments : ∀ a ∈ f.assignments, ∀ j, a.value = some j → j.canonical?.isSome
  conditions : ∀ d ∈ f.conditions, ∀ j, d.value = some j → j.canonical?.isSome

theorem forall_of_mapM_eq_some {α β : Type} {g : α → Option β} {P : β → Prop}
    (h : ∀ x y, g x = some y → P y) {l : List α} {m : List β} (hl : l.mapM g = some m) :
    ∀ y ∈ m, P y := by
  induction l generalizing m with
  | nil =>
    obtain rfl : [] = m := Option.some.inj hl
    exact nofun
  | cons x l ih =>
    rw [List.mapM_cons] at hl
    obtain ⟨y, hy, hl⟩ := Option.bind_eq_some_iff.1 hl
    obtain ⟨ys, hys, hl⟩ := Option.bind_eq_some_iff.1 hl
    obtain rfl : y :: ys = m := Option.some.inj hl
    exact List.forall_mem_cons.2 ⟨h x y hy, ih hys⟩

theorem forall_of_listOf? {α : Type} {item : Json → Option α} {P : α → Prop}
    (h : ∀ j x, item j = some x → P x) {j : Json} {l : List α}
    (hl : j.listOf? item = some l) : ∀ x ∈ l, P x := by
  obtain ⟨items, -, hitems⟩ := Option.bind_eq_some_iff.1 hl
  exact forall_of_mapM_eq_some h hitems

/-- A member that is read, or what stands for a missing one. -/
theorem fieldOr?_eq_some {α : Type} {name : String} {read : Json → Option α} {missing x : α}
    {ms : List (String × Json)} (h : Json.fieldOr? name read missing ms = some x) :
    x = missing ∨ ∃ j, read j = some x := by
  obtain ⟨member, -, h⟩ := Option.bind_eq_some_iff.1 h
  cases member with
  | none => exact .inl (Option.some.inj h).symm
  | some j => exact .inr ⟨j, h⟩

theorem canonical_of_present? {ms : List (String × Json)} {value : Option Json}
    (h : Json.fieldOr? "value" Json.present? none ms = some value) :
    ∀ j, value = some j → j.canonical?.isSome := by
  rcases fieldOr?_eq_some h with rfl | ⟨given, hgiven⟩
  · exact nofun
  · obtain ⟨k, -, hgiven⟩ := Option.bind_eq_some_iff.1 hgiven
    obtain ⟨canonical, hcanonical, hgiven⟩ := Option.bind_eq_some_iff.1 hgiven
    obtain rfl : some k = value := Option.some.inj hgiven
    rintro j ⟨⟩
    exact Option.isSome_iff_exists.2 ⟨canonical, hcanonical⟩

theorem value_of_assignment {j : Json} {a : AssignmentDeclaration}
    (h : AssignmentDeclaration.ofJson? j = some a) :
    ∀ j, a.value = some j → j.canonical?.isSome := by
  obtain ⟨ms, -, h⟩ := Option.bind_eq_some_iff.1 h
  obtain ⟨column, -, h⟩ := Option.bind_eq_some_iff.1 h
  obtain ⟨value, hvalue, h⟩ := Option.bind_eq_some_iff.1 h
  obtain ⟨source, -, h⟩ := Option.bind_eq_some_iff.1 h
  obtain rfl : (⟨column, value, source⟩ : AssignmentDeclaration) = a := Option.some.inj h
  exact canonical_of_present? hvalue

theorem value_of_condition {j : Json} {d : ConditionDeclaration}
    (h : ConditionDeclaration.ofJson? j = some d) :
    ∀ j, d.value = some j → j.canonical?.isSome := by
  obtain ⟨ms, -, h⟩ := Option.bind_eq_some_iff.1 h
  obtain ⟨column, -, h⟩ := Option.bind_eq_some_iff.1 h
  obtain ⟨comparison, -, h⟩ := Option.bind_eq_some_iff.1 h
  obtain ⟨value, hvalue, h⟩ := Option.bind_eq_some_iff.1 h
  obtain rfl : (⟨column, comparison, value⟩ : ConditionDeclaration) = d := Option.some.inj h
  exact canonical_of_present? hvalue

theorem valuesRead_of_read? {text : String} {f : StatementFile}
    (h : StatementFile.read? text = some f) : f.ValuesRead := by
  obtain ⟨j, -, h⟩ := Option.bind_eq_some_iff.1 h
  obtain ⟨ms, -, h⟩ := Option.bind_eq_some_iff.1 h
  obtain ⟨tables, -, h⟩ := Option.bind_eq_some_iff.1 h
  obtain ⟨target, -, h⟩ := Option.bind_eq_some_iff.1 h
  obtain ⟨assignments, hassignments, h⟩ := Option.bind_eq_some_iff.1 h
  obtain ⟨conditions, hconditions, h⟩ := Option.bind_eq_some_iff.1 h
  obtain ⟨limit, -, h⟩ := Option.bind_eq_some_iff.1 h
  obtain rfl : (⟨tables, target, assignments, conditions, limit⟩ : StatementFile) = f :=
    Option.some.inj h
  constructor
  · obtain ⟨items, -, hitems⟩ := Option.bind_eq_some_iff.1 hassignments
    exact forall_of_listOf? (fun _ _ => value_of_assignment) hitems
  · rcases fieldOr?_eq_some hconditions with rfl | ⟨given, hgiven⟩
    · exact nofun
    · exact forall_of_listOf? (fun _ _ => value_of_condition) hgiven

/-! ### Files that load -/

theorem decides_statement {f : StatementFile} (h : f.ValuesRead) :
    Decides f.statement f.checks := by
  have hassignments := decides_mapM fun a ha => decides_assignment f (h.assignments a ha)
  have hconditions := decides_mapM fun d hd => decides_condition f (h.conditions d hd)
  exact (decides_target f f.target).bind fun t _ => hassignments.bind fun as _ =>
    hconditions.then_ok _

/-- The names of a target resolve. -/
def StatementFile.TargetLoads (f : StatementFile) : TargetDeclaration → Prop
  | .table name => f.Declares name
  | .join lead parts => f.Declares lead ∧
      ∀ p ∈ parts, f.Declares p.table ∧ ∀ q ∈ p.pairs, f.Resolves q.1 ∧ f.Resolves q.2

/-- What a file that loads is like. -/
structure StatementFile.Loads (f : StatementFile) : Prop where
  target : f.TargetLoads f.target
  /-- An assigned column resolves, and it is set to a scalar or to a column that resolves. -/
  assignments : ∀ a ∈ f.assignments, f.Resolves a.column ∧ a.value.isSome = a.source.isNone ∧
    (∀ j, a.value = some j → j.isScalar) ∧ ∀ source, a.source = some source → f.Resolves source
  /-- A compared column resolves, and it is compared with a scalar if it is with anything. -/
  conditions : ∀ d ∈ f.conditions, f.Resolves d.column ∧
    (d.hasValue → ∃ j, d.value = some j ∧ j.isScalar)

theorem passed_refuse (fault : Prop) (cause : InvalidArgument) :
    (refuse fault cause).Passed ↔ ¬ fault := Check.passed_refuseIf _ _

theorem passed_tableCheck (f : StatementFile) (name : String) :
    (f.tableCheck name).Passed ↔ f.Declares name := by
  rw [StatementFile.tableCheck, passed_refuse, Classical.not_not]

theorem passed_scalarCheck (j : Json) : (scalarCheck j).Passed ↔ j.isScalar := by
  rw [scalarCheck, passed_refuse, Bool.not_eq_false]

theorem passed_columnChecks (f : StatementFile) (name : String) :
    (∀ c ∈ f.columnChecks name, c.Passed) ↔ f.Resolves name := by
  have hdeclared (h : f.Resolves name) : f.Declares (tablePart name) := by
    obtain ⟨-, t, ht, -⟩ := h
    rw [← Classical.not_not (a := f.Declares _), ← firstTable?_eq_none_iff, ht]
    exact Option.some_ne_none t
  -- The checks before the last one only choose the error: the last one is passed only if they are.
  rw [StatementFile.columnChecks]
  simp only [List.forall_mem_cons, List.not_mem_nil, false_implies, implies_true, and_true,
    passed_refuse, passed_tableCheck, Classical.not_not]
  exact ⟨fun h => h.2.2, fun h => ⟨h.1, hdeclared h, h⟩⟩

theorem passed_targetChecks (f : StatementFile) (t : TargetDeclaration) :
    (∀ c ∈ f.targetChecks t, c.Passed) ↔ f.TargetLoads t := by
  cases t with
  | table name =>
    rw [StatementFile.targetChecks, List.forall_mem_singleton, passed_tableCheck]
    rfl
  | join lead parts =>
    simp only [StatementFile.targetChecks, StatementFile.partChecks, StatementFile.TargetLoads,
      List.forall_mem_cons, List.forall_mem_flatMap, List.forall_mem_append, List.not_mem_nil,
      false_implies, implies_true, and_true, passed_tableCheck, passed_columnChecks]
    exact and_congr_right fun _ => forall₂_congr fun p _ => and_comm

theorem passed_assignmentChecks (f : StatementFile) (a : AssignmentDeclaration) :
    (∀ c ∈ f.assignmentChecks a, c.Passed) ↔ f.Resolves a.column ∧
      a.value.isSome = a.source.isNone ∧ (∀ j, a.value = some j → j.isScalar) ∧
      ∀ source, a.source = some source → f.Resolves source := by
  rw [StatementFile.assignmentChecks, List.forall_mem_append, List.forall_mem_cons,
    List.forall_mem_append, List.forall_mem_map, List.forall_mem_flatMap]
  simp only [passed_columnChecks, passed_refuse, passed_scalarCheck, Option.mem_toList,
    ne_eq, Classical.not_not]

theorem passed_conditionChecks (f : StatementFile) (d : ConditionDeclaration) :
    (∀ c ∈ f.conditionChecks d, c.Passed) ↔ f.Resolves d.column ∧
      (d.hasValue → ∃ j, d.value = some j ∧ j.isScalar) := by
  rw [StatementFile.conditionChecks, List.forall_mem_append, passed_columnChecks]
  refine and_congr_right fun _ => ?_
  by_cases hvalue : d.hasValue
  · rw [if_pos hvalue, List.forall_mem_cons, List.forall_mem_map, passed_refuse]
    cases d.value <;> simp [hvalue, passed_scalarCheck]
  · simp [hvalue]

theorem passed_checks (f : StatementFile) : (∀ c ∈ f.checks, c.Passed) ↔ f.Loads := by
  rw [StatementFile.checks, List.forall_mem_append, List.forall_mem_append, passed_targetChecks,
    List.forall_mem_flatMap, List.forall_mem_flatMap]
  simp only [passed_assignmentChecks, passed_conditionChecks]
  exact ⟨fun ⟨ht, ha, hd⟩ => ⟨ht, ha, hd⟩, fun ⟨ht, ha, hd⟩ => ⟨ht, ha, hd⟩⟩

/-- An error is given by one of the checks. -/
theorem exists_of_firstFault {cs : List Check} {e : Error} (h : FirstFault cs e) :
    ∃ c ∈ cs, c e := by
  induction cs with
  | nil => exact h.elim
  | cons c cs ih =>
    rcases h with h | ⟨-, h⟩
    · exact ⟨c, List.mem_cons_self, h⟩
    · obtain ⟨d, hd, he⟩ := ih h
      exact ⟨d, List.mem_cons_of_mem c hd, he⟩

/-- The check finds nothing but invalid arguments. -/
def Check.OfArguments (c : Check) : Prop := ∀ e, c e → ∃ cause, e = .invalidArgument cause

theorem ofArguments_refuse (fault : Prop) (cause : InvalidArgument) :
    (refuse fault cause).OfArguments := fun _ h => ⟨cause, h.2⟩

theorem ofArguments_columnChecks (f : StatementFile) (name : String) :
    ∀ c ∈ f.columnChecks name, c.OfArguments := by
  simp [StatementFile.columnChecks, StatementFile.tableCheck, ofArguments_refuse]

theorem ofArguments_checks (f : StatementFile) : ∀ c ∈ f.checks, c.OfArguments := by
  have hcolumn := ofArguments_columnChecks f
  have htable : ∀ name, (f.tableCheck name).OfArguments := fun _ => ofArguments_refuse _ _
  rw [StatementFile.checks, List.forall_mem_append, List.forall_mem_append]
  refine ⟨?_, ?_, ?_⟩
  · cases f.target with
    | table name => exact List.forall_mem_singleton.2 (htable name)
    | join lead parts =>
      refine List.forall_mem_cons.2 ⟨htable lead, List.forall_mem_flatMap.2 fun p _ => ?_⟩
      refine List.forall_mem_append.2 ⟨List.forall_mem_flatMap.2 fun q _ => ?_, ?_⟩
      · exact List.forall_mem_append.2 ⟨hcolumn q.1, hcolumn q.2⟩
      · exact List.forall_mem_singleton.2 (htable p.table)
  · refine List.forall_mem_flatMap.2 fun a _ => ?_
    refine List.forall_mem_append.2 ⟨hcolumn a.column, List.forall_mem_cons.2 ⟨?_, ?_⟩⟩
    · exact ofArguments_refuse _ _
    · exact List.forall_mem_append.2 ⟨List.forall_mem_map.2 fun j _ => ofArguments_refuse _ _,
        List.forall_mem_flatMap.2 fun source _ => hcolumn source⟩
  · refine List.forall_mem_flatMap.2 fun d _ => ?_
    refine List.forall_mem_append.2 ⟨hcolumn d.column, ?_⟩
    split
    · exact List.forall_mem_cons.2 ⟨ofArguments_refuse _ _,
        List.forall_mem_map.2 fun j _ => ofArguments_refuse _ _⟩
    · exact nofun

/-- **When a statement file loads.** A file that was read gives a statement exactly if the names of
its target are declared, every assigned column resolves and is set to one scalar or one column, and
every compared column resolves and has a scalar to be compared with. Otherwise the error is the one
of the first check that is not passed, and says that an argument is invalid. A name resolves by its
first point, to the column with the last type that is listed, and if tables have different names
without points, every declared column is found under its qualified name. -/
theorem statement_loads {text : String} {f : StatementFile}
    (h : StatementFile.read? text = some f) :
    ((∃ u, f.statement = .ok u) ↔ f.Loads) ∧
    (∀ e, f.statement = .error e ↔ FirstFault f.checks e) ∧
    (∀ e, f.statement = .error e → ∃ cause, e = .invalidArgument cause) ∧
    (∀ name, (∃ c, f.schema.column name = .ok c) ↔ f.Resolves name) ∧
    (∀ name c, f.schema.column name = .ok c → c.table = tablePart name ∧
      c.name = columnPart name ∧ f.declaredType? c.table c.name = some c.type) ∧
    ((f.tables.map TableDeclaration.name).Nodup → (∀ t ∈ f.tables, '.' ∉ t.name.toList) →
      ∀ t ∈ f.schema, ∀ c ∈ t.columns, f.schema.column c.qualifiedName = .ok c) := by
  have hdecides := decides_statement (valuesRead_of_read? h)
  refine ⟨?_, hdecides, fun e he => ?_, resolves_iff f, fun name c hc => column_parts hc,
    fun hnames hpoints t ht c hc => column_qualifiedName hnames hpoints ht hc⟩
  · rw [hdecides.eq_ok_iff, passed_checks]
  · obtain ⟨c, hc, hce⟩ := exists_of_firstFault ((hdecides e).1 he)
    exact ofArguments_checks f c hc e hce

/-- A file that assigns to a column of a table of the given name. The column is listed twice. -/
def fileText (table : String) : String :=
  "\x7b\"tables\":[\x7b\"name\":\"" ++ table ++ "\",\"columns\":[\x7b\"name\":\"id\",\"type\":" ++
    "\"integer\"\x7d,\x7b\"name\":\"id\",\"type\":\"text\"\x7d]\x7d],\"target\":\x7b\"table\":\"" ++
    table ++ "\"\x7d,\"set\":[\x7b\"column\":\"" ++ table ++ ".id\",\"value\":null\x7d]\x7d"

/-- A table `users` can be used, and its column has the type that is listed last. A table `a.b` is
declared just so, but the first point of `a.b.id` ends the name `a`. -/
theorem statement_loads_fileText :
    (∃ f, StatementFile.read? (fileText "users") = some f ∧ f.Loads ∧
      f.schema.column "users.id" = .ok ⟨"users", "id", .text⟩) ∧
    ∃ f, StatementFile.read? (fileText "a.b") = some f ∧ f.Declares "a.b" ∧
      ¬ f.Resolves "a.b.id" ∧ ¬ f.Loads ∧
      FirstFault f.checks (.invalidArgument (.unknownTable "a")) := by
  constructor
  · have hread : (StatementFile.read? (fileText "users")).any (fun f =>
        f.tables.map TableDeclaration.name = ["users"] ∧
          f.schema = [⟨"users", [("id", .text)]⟩] ∧ f.statement.isOk = true) = true := by
      decide +kernel
    obtain ⟨f, hf, hfile⟩ := (Option.any_eq_true _ _).1 hread
    obtain ⟨hnames, hschema, hok⟩ := of_decide_eq_true hfile
    obtain ⟨hloads, -, -, -, -, hcolumns⟩ := statement_loads hf
    refine ⟨f, hf, hloads.1 ?_, ?_⟩
    · cases hs : f.statement with
      | ok u => exact ⟨u, rfl⟩
      | error e =>
        rw [hs] at hok
        cases hok
    · have hpoints : ∀ name ∈ f.tables.map TableDeclaration.name, '.' ∉ name.toList := by
        rw [hnames]
        decide
      refine hcolumns (by rw [hnames]; decide) (fun t ht => hpoints _ (List.mem_map_of_mem ht))
        ⟨"users", [("id", .text)]⟩ ?_ ⟨"users", "id", .text⟩ List.mem_cons_self
      rw [hschema]
      exact List.mem_cons_self
  · have hread : (StatementFile.read? (fileText "a.b")).any (fun f =>
        f.tables.map TableDeclaration.name = ["a.b"] ∧
          f.schema.column "a.b.id" = .error (.invalidArgument (.unknownTable "a")) ∧
          (f.statement.map fun _ => ()) = .error (.invalidArgument (.unknownTable "a"))) = true := by
      decide +kernel
    obtain ⟨f, hf, hfile⟩ := (Option.any_eq_true _ _).1 hread
    obtain ⟨hnames, hcolumn, herror⟩ := of_decide_eq_true hfile
    obtain ⟨hloads, hfault, -, hresolves, -, -⟩ := statement_loads hf
    have hstatement : f.statement = .error (.invalidArgument (.unknownTable "a")) := by
      cases hs : f.statement with
      | error e =>
        rw [hs] at herror
        exact congrArg Except.error (Except.error.inj herror)
      | ok u =>
        rw [hs] at herror
        cases herror
    have hdeclared : "a.b" ∈ f.tables.map TableDeclaration.name := by
      rw [hnames]
      exact List.mem_cons_self
    refine ⟨f, hf, List.mem_map.1 hdeclared, ?_, ?_, (hfault _).1 hstatement⟩
    · rw [← hresolves, hcolumn]
      exact nofun
    · rw [← hloads, hstatement]
      exact nofun

end SqlUpdate
