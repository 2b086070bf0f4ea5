import Mathlib.Tactic.Tauto
import SqlUpdate.Proofs.Statement.Forms
import SqlUpdate.Proofs.Statement.Messages
/-!
# Which statements are accepted

A statement is refused for the first of several reasons that applies. The reasons are listed here
dialect by dialect, and compiling a statement is shown to follow the list.

* `Check`, `FirstFault` — a reason to refuse something, and the first one that applies.
* `acceptanceTable` — the checks of a statement, in the order in which they are made.
* `Decides` — a computation that fails as a list of checks says; `Decides.bind`, that one behind
  another makes the checks of both.
* `compile_follows_acceptanceTable` — compiling a statement, with placeholders or with literals,
  and preparing it decide its acceptance table.
-/

namespace SqlUpdate

/-! ### Checks -/

/-- A check, as the errors that it gives. A check that gives none is passed. -/
def Check := Error → Prop

namespace Check

/-- The check gives no error. -/
def Passed (c : Check) : Prop := ∀ e, ¬ c e

/-- A check that is never passed. -/
def always (e : Error) : Check := fun f => f = e

/-- A check that is passed unless something holds. -/
def refuseIf (fault : Prop) (e : Error) : Check := fun f => fault ∧ f = e

/-- A check of the elements of a list. The first one with a fault names the error. -/
def first {α : Type} (as : List α) (fault : α → Prop) (e : α → Error) : Check := fun f =>
  ∃ before a after, as = before ++ a :: after ∧ (∀ b ∈ before, ¬ fault b) ∧ fault a ∧ f = e a

theorem passed_refuseIf (fault : Prop) (e : Error) : (refuseIf fault e).Passed ↔ ¬ fault :=
  ⟨fun h hfault => h e ⟨hfault, rfl⟩, fun h _ he => h he.1⟩

end Check

/-- The error of the first check that is not passed. -/
def FirstFault : List Check → Error → Prop
  | [], _ => False
  | c :: cs, e => c e ∨ (c.Passed ∧ FirstFault cs e)

/-! ### The acceptance table -/

/-- A table of the join has the name. -/
def Join.HasMember (j : Join) (name : String) : Prop :=
  j.lead.name = name ∨ ∃ p ∈ j.parts, p.table.name = name

/-- No limit is set. -/
def unlimited (cause : Unsupported) (limit : Option Nat) : Check :=
  .refuseIf (limit ≠ none) (.unsupported cause)

/-- Every assigned column belongs to a table of the join. -/
def assignsMembers (j : Join) (as : List Assignment) : Check :=
  .first as (fun a => ¬ j.HasMember a.column.table)
    fun a => .invalidArgument (.notInJoin a.column)

/-- The assigned columns belong to one table. -/
def assignsOneTable (d : Dialect) (as : List Assignment) : Check :=
  .refuseIf (∃ a ∈ as, ∃ b ∈ as, a.column.table ≠ b.column.table)
    (.invalidArgument (.severalTables d))

/-- A column is assigned an expression that holds an argument. -/
def Assignment.BindsInExpression (a : Assignment) : Prop :=
  ∃ e, a.assigned = .expr e ∧ e.arguments ≠ []

/-- No assigned expression holds an argument. -/
def bindsNothing (d : Dialect) (as : List Assignment) : Check :=
  .first as Assignment.BindsInExpression fun a => .unsupported (.argumentInView d a.column)

/-- The join has exactly one part. -/
def hasOnePart (d : Dialect) (j : Join) : Check :=
  .refuseIf (j.parts.length ≠ 1) (.unsupported (.severalParts d))

/-- The checks of a statement on a join. -/
def joinChecks (d : Dialect) (j : Join) (as : List Assignment) (limit : Option Nat) : List Check :=
  match d with
  | .generic => [.always (.unsupported (.join .generic))]
  | .mysql | .mariadb => [unlimited (.limitOfTables d) limit, assignsMembers j as]
  | .postgresql | .sqlite =>
    [unlimited (.limit d) limit, assignsMembers j as, assignsOneTable d as]
  | .sqlserver => [assignsMembers j as, assignsOneTable .sqlserver as]
  | .oracle => [assignsMembers j as, assignsOneTable .oracle as, bindsNothing .oracle as]
  | .h2 => [unlimited (.limitOfJoin .h2) limit, assignsMembers j as, assignsOneTable .h2 as,
      hasOnePart .h2 j]

/-- The checks of a statement that assigns something. -/
def targetChecks (ctx : Context) (u : Update) : List Check :=
  match u.target with
  | .table _ =>
    [.refuseIf (u.limit ≠ none ∧ ctx.tableDialect ∈ [.postgresql, .sqlite])
      (.unsupported (.limit ctx.tableDialect))]
  | .join j => joinChecks ctx.joinDialect j u.assignments u.limit
  | .aliased .. => [.always (.unsupported (.target .aliased))]
  | .subquery .. => [.always (.unsupported (.target .subquery))]

/-- The checks of a statement, in the order in which they are made. -/
def acceptanceTable (ctx : Context) (u : Update) : List Check :=
  .refuseIf (u.assignments = []) .emptyAssignments :: targetChecks ctx u

/-! ### Computations that make checks -/

/-- The computation fails exactly with the error of the first check that is not passed. -/
def Decides {α : Type} (x : Except Error α) (cs : List Check) : Prop :=
  ∀ e, x = .error e ↔ FirstFault cs e

section Decides

variable {α β : Type} {x : Except Error α} {cs ds : List Check}

/-- Checks are all passed if none of them gives an error first. -/
theorem passed_iff_no_firstFault (cs : List Check) :
    (∀ c ∈ cs, c.Passed) ↔ ∀ e, ¬ FirstFault cs e := by
  induction cs with
  | nil => simp [FirstFault]
  | cons c cs ih =>
    rw [List.forall_mem_cons, ih]
    constructor
    · rintro ⟨hc, hcs⟩ e (he | ⟨-, he⟩)
      · exact hc e he
      · exact hcs e he
    · intro h
      have hc : c.Passed := fun e he => h e (.inl he)
      exact ⟨hc, fun e he => h e (.inr ⟨hc, he⟩)⟩

theorem firstFault_append (cs ds : List Check) (e : Error) :
    FirstFault (cs ++ ds) e ↔ FirstFault cs e ∨ ((∀ c ∈ cs, c.Passed) ∧ FirstFault ds e) := by
  induction cs with
  | nil => simp [FirstFault]
  | cons c cs ih =>
    rw [List.cons_append, FirstFault, FirstFault, ih, List.forall_mem_cons]
    tauto

/-- A computation that makes checks succeeds if all are passed. -/
theorem Decides.eq_ok_iff (h : Decides x cs) : (∃ a, x = .ok a) ↔ ∀ c ∈ cs, c.Passed := by
  rw [passed_iff_no_firstFault]
  cases x with
  | ok a =>
    refine ⟨fun _ e he => ?_, fun _ => ⟨a, rfl⟩⟩
    cases (h e).2 he
  | error e =>
    refine ⟨fun ⟨a, ha⟩ => ?_, fun hall => ?_⟩
    · cases ha
    · exact absurd ((h e).1 rfl) (hall e)

/-- A computation behind another one makes its checks once the others are passed. -/
theorem Decides.bind {f : α → Except Error β} (hx : Decides x cs)
    (hf : ∀ a, x = .ok a → Decides (f a) ds) : Decides (x >>= f) (cs ++ ds) := by
  intro e
  rw [firstFault_append, ← hx.eq_ok_iff, ← hx e]
  cases x with
  | error e' =>
    show Except.error e' = Except.error e ↔ _
    constructor
    · intro h
      exact .inl (congrArg _ (Except.error.inj h))
    · rintro (h | ⟨⟨a, ha⟩, -⟩)
      · exact congrArg _ (Except.error.inj h)
      · cases ha
  | ok a =>
    constructor
    · intro h
      exact .inr ⟨⟨a, rfl⟩, (hf a rfl e).1 h⟩
    · rintro (h | ⟨-, h⟩)
      · cases h
      · exact (hf a rfl e).2 h

theorem decides_ok (a : α) : Decides (.ok a) [] := fun _ => ⟨nofun, False.elim⟩

/-- What is done with the result of a computation does not change which checks it makes. -/
theorem Decides.map (f : α → β) (h : Decides x cs) : Decides (x.map f) cs := by
  intro e
  rw [← h e]
  cases x with
  | ok a => exact ⟨nofun, nofun⟩
  | error e' => exact ⟨fun he => congrArg Except.error (Except.error.inj he),
      fun he => congrArg Except.error (Except.error.inj he)⟩

theorem decides_always (e : Error) : Decides (.error e : Except Error α) [.always e] := by
  intro f
  constructor
  · intro h
    exact .inl (Except.error.inj h).symm
  · rintro (h | ⟨-, h⟩)
    · rw [show f = e from h]
    · cases h

/-- A failure for one reason. -/
theorem decides_refuseIf {p : Prop} {e : Error} (hfault : p → x = .error e)
    (hok : ¬ p → ∃ a, x = .ok a) : Decides x [.refuseIf p e] := by
  intro f
  constructor
  · intro h
    by_cases hp : p
    · exact .inl ⟨hp, Except.error.inj (h.symm.trans (hfault hp))⟩
    · obtain ⟨a, ha⟩ := hok hp
      cases h.symm.trans ha
  · rintro (⟨hp, hf⟩ | ⟨-, h⟩)
    · rw [hf]
      exact hfault hp
    · cases h

/-- Of the elements with a fault there is a first one. -/
theorem exists_first_fault {γ : Type} {as : List γ} {fault : γ → Prop} (h : ∃ a ∈ as, fault a) :
    ∃ before a after, as = before ++ a :: after ∧ (∀ b ∈ before, ¬ fault b) ∧ fault a := by
  induction as with
  | nil =>
    obtain ⟨a, ha, -⟩ := h
    cases ha
  | cons b as ih =>
    by_cases hb : fault b
    · exact ⟨[], b, as, rfl, nofun, hb⟩
    · obtain ⟨a, ha, hfault⟩ := h
      rcases List.mem_cons.1 ha with rfl | ha
      · exact absurd hfault hb
      · obtain ⟨before, c, after, rfl, hbefore, hc⟩ := ih ⟨a, ha, hfault⟩
        exact ⟨b :: before, c, after, rfl, List.forall_mem_cons.2 ⟨hb, hbefore⟩, hc⟩

/-- A failure that the first element with a fault names. -/
theorem decides_first {γ : Type} {as : List γ} {fault : γ → Prop} {e : γ → Error}
    (hfault : ∀ before a after, as = before ++ a :: after → (∀ b ∈ before, ¬ fault b) → fault a →
      x = .error (e a))
    (hok : (∀ a ∈ as, ¬ fault a) → ∃ a, x = .ok a) : Decides x [.first as fault e] := by
  intro f
  constructor
  · intro h
    by_cases hall : ∀ a ∈ as, ¬ fault a
    · obtain ⟨a, ha⟩ := hok hall
      cases h.symm.trans ha
    · obtain ⟨before, a, after, has, hbefore, ha⟩ := exists_first_fault (by simpa using hall)
      have hx := hfault before a after has hbefore ha
      exact .inl ⟨before, a, after, has, hbefore, ha, Except.error.inj (h.symm.trans hx)⟩
  · rintro (⟨before, a, after, has, hbefore, ha, hf⟩ | ⟨-, h⟩)
    · rw [hf]
      exact hfault before a after has hbefore ha
    · cases h

end Decides

/-! ### Tables of a join -/

/-- Leaving out repeated names loses no name. -/
theorem mem_names_firstOfEachName (known : List String) (ts : List Table) (name : String) :
    name ∈ (firstOfEachName known ts).map Table.name ↔
      name ∉ known ∧ name ∈ ts.map Table.name := by
  induction ts generalizing known with
  | nil => simp [firstOfEachName]
  | cons t ts ih =>
    rw [firstOfEachName]
    by_cases hknown : t.name ∈ known
    · rw [if_pos (List.contains_iff_mem.2 hknown), ih, List.map_cons, List.mem_cons]
      refine and_congr_right fun hname => ⟨.inr, fun h => h.resolve_left ?_⟩
      rintro rfl
      exact hname hknown
    · rw [if_neg fun h => hknown (List.contains_iff_mem.1 h), List.map_cons, List.map_cons,
        List.mem_cons, List.mem_cons, ih, List.mem_cons]
      by_cases heq : name = t.name
      · simp [heq, hknown]
      · simp [heq]

/-- A table is found by its name if the join has one of that name. -/
theorem table?_eq_none_iff (j : Join) (name : String) :
    j.table? name = none ↔ ¬ j.HasMember name := by
  have hmem : name ∈ j.tables.map Table.name ↔ j.HasMember name := by
    rw [Join.tables, mem_names_firstOfEachName, Join.HasMember]
    simp [eq_comm]
  rw [← hmem, Join.table?, List.find?_eq_none, List.mem_map]
  simp

/-! ### Planning -/

theorem decides_refuseLimit (cause : Unsupported) (limit : Option Nat) :
    Decides (refuseLimit cause limit) [unlimited cause limit] := by
  refine decides_refuseIf (fun h => ?_) fun h => ⟨(), ?_⟩
  · rw [refuseLimit, Option.isSome_iff_ne_none.2 h]
    rfl
  · rw [Classical.not_not.1 h]
    rfl

/-- No assigned column is foreign if all of their tables are joined. -/
theorem foreignColumn?_eq_none_iff (j : Join) (as : List Assignment) :
    foreignColumn? j as = none ↔ ∀ a ∈ as, j.HasMember a.column.table := by
  rw [foreignColumn?, List.find?_eq_none, List.forall_mem_map]
  refine forall₂_congr fun a _ => ?_
  rw [Option.isNone_iff_eq_none, table?_eq_none_iff, Classical.not_not]

/-- The first column whose table is not joined is the foreign one. -/
theorem foreignColumn?_eq_some {j : Join} {before after : List Assignment} {a : Assignment}
    (hbefore : ∀ b ∈ before, j.HasMember b.column.table) (ha : ¬ j.HasMember a.column.table) :
    foreignColumn? j (before ++ a :: after) = some a.column := by
  have hnone : foreignColumn? j before = none := (foreignColumn?_eq_none_iff j before).2 hbefore
  have hfound : (j.table? a.column.table).isNone = true :=
    Option.isNone_iff_eq_none.2 ((table?_eq_none_iff j _).2 ha)
  rw [foreignColumn?] at hnone ⊢
  rw [List.map_append, List.find?_append, hnone, Option.none_or, List.map_cons]
  exact List.find?_cons_of_pos hfound

theorem decides_requireJoined (j : Join) (as : List Assignment) :
    Decides (requireJoined j as) [assignsMembers j as] := by
  refine decides_first (fun before a after has hbefore ha => ?_) fun hall => ⟨(), ?_⟩
  · have hmembers : ∀ b ∈ before, j.HasMember b.column.table := fun b hb =>
      Classical.not_not.1 (hbefore b hb)
    rw [requireJoined, has, foreignColumn?_eq_some hmembers ha]
  · have hmembers : ∀ a ∈ as, j.HasMember a.column.table := fun a ha =>
      Classical.not_not.1 (hall a ha)
    rw [requireJoined, (foreignColumn?_eq_none_iff j as).2 hmembers]

theorem hasMember_of_requireJoined {j : Join} {as : List Assignment} {x : Unit}
    (h : requireJoined j as = .ok x) : ∀ a ∈ as, j.HasMember a.column.table := by
  rw [← foreignColumn?_eq_none_iff]
  unfold requireJoined at h
  split at h
  · cases h
  · assumption

/-- Assigned columns have a table in common if their tables do not differ and it is joined. -/
theorem commonTable?_eq_none_iff {j : Join} {as : List Assignment} (hne : as ≠ [])
    (hall : ∀ a ∈ as, j.HasMember a.column.table) :
    commonTable? j as = none ↔ ∃ a ∈ as, ∃ b ∈ as, a.column.table ≠ b.column.table := by
  cases as with
  | nil => exact absurd rfl hne
  | cons a as =>
    rw [commonTable?]
    split
    · rename_i hsame
      have heq : ∀ b ∈ a :: as, b.column.table = a.column.table :=
        List.forall_mem_cons.2 ⟨rfl, by simpa using hsame⟩
      rw [table?_eq_none_iff]
      constructor
      · intro hno
        exact absurd (hall a List.mem_cons_self) hno
      · rintro ⟨b, hb, c, hc, hbc⟩
        exact absurd ((heq b hb).trans (heq c hc).symm) hbc
    · rename_i hsame
      refine ⟨fun _ => ?_, fun _ => rfl⟩
      obtain ⟨b, hb, hba⟩ : ∃ b ∈ as, b.column.table ≠ a.column.table := by simpa using hsame
      exact ⟨b, List.mem_cons_of_mem a hb, a, List.mem_cons_self, hba⟩

theorem decides_updatedTable (d : Dialect) (j : Join) {as : List Assignment} (hne : as ≠ []) :
    Decides (updatedTable d j as) [assignsMembers j as, assignsOneTable d as] := by
  refine (decides_requireJoined j as).bind fun _ hjoined => ?_
  have hcommon := commonTable?_eq_none_iff hne (hasMember_of_requireJoined hjoined)
  refine decides_refuseIf (fun hseveral => ?_) fun hone => ?_
  · rw [hcommon.2 hseveral]
  · obtain ⟨t, ht⟩ := Option.ne_none_iff_exists'.1 (mt hcommon.1 hone)
    exact ⟨t, by rw [ht]⟩

/-- Expressions hold arguments if they count some. -/
theorem argumentCount_pos_iff (e : Expr) : 0 < e.argumentCount ↔ e.arguments ≠ [] := by
  rw [← Expr.length_arguments, List.length_pos_iff]

theorem boundExpression?_eq_none_iff (as : List Assignment) :
    boundExpression? as = none ↔ ∀ a ∈ as, ¬ a.BindsInExpression := by
  rw [boundExpression?, List.findSome?_eq_none_iff]
  refine forall₂_congr fun a _ => ?_
  obtain ⟨c, v | e⟩ := a
  · simp [Assignment.BindsInExpression]
  · simp [Assignment.BindsInExpression, argumentCount_pos_iff]

theorem boundExpression?_eq_some {before after : List Assignment} {a : Assignment}
    (hbefore : ∀ b ∈ before, ¬ b.BindsInExpression) (ha : a.BindsInExpression) :
    boundExpression? (before ++ a :: after) = some a.column := by
  have hnone : boundExpression? before = none := (boundExpression?_eq_none_iff before).2 hbefore
  obtain ⟨e, he, hargs⟩ := ha
  rw [boundExpression?] at hnone ⊢
  rw [List.findSome?_append, hnone, Option.none_or, List.findSome?_cons, he]
  simp [argumentCount_pos_iff, hargs]

/-! ### Statements -/

theorem decides_planTable (d : Dialect) (t : Table) (limit : Option Nat) :
    Decides (planTable d t limit) [.refuseIf (limit ≠ none ∧ d ∈ [.postgresql, .sqlite])
      (.unsupported (.limit d))] := by
  refine decides_refuseIf (fun ⟨hlimit, hd⟩ => ?_) fun h => ?_
  · obtain ⟨n, rfl⟩ := Option.ne_none_iff_exists'.1 hlimit
    simp only [List.mem_cons, List.not_mem_nil, or_false] at hd
    rcases hd with rfl | rfl <;> rfl
  · cases limit with
    | none => exact ⟨_, rfl⟩
    | some n =>
      have hd : d ∉ [.postgresql, .sqlite] := fun hd => h ⟨Option.some_ne_none n, hd⟩
      cases d <;> first | exact ⟨_, rfl⟩ | exact absurd (by decide) hd

theorem decides_planJoin (d : Dialect) (j : Join) {as : List Assignment} (limit : Option Nat)
    (hne : as ≠ []) : Decides (planJoin d j as limit) (joinChecks d j as limit) := by
  have hupdated := decides_updatedTable d j hne
  -- `UPDATE ... FROM` without a limit
  have hfrom (hd : d.joinStyle = .from false false) : Decides (planJoin d j as limit)
      [unlimited (.limit d) limit, assignsMembers j as, assignsOneTable d as] := by
    rw [planJoin, hd]
    exact (decides_refuseLimit _ limit).bind fun _ _ => hupdated.bind fun t _ => decides_ok _
  have hlist (hd : d.joinStyle = .list) : Decides (planJoin d j as limit)
      [unlimited (.limitOfTables d) limit, assignsMembers j as] := by
    rw [planJoin, hd]
    exact (decides_refuseLimit _ limit).bind fun _ _ => (decides_requireJoined j as).bind
      fun _ _ => decides_ok _
  cases d with
  | generic => exact decides_always _
  | mysql => exact hlist rfl
  | mariadb => exact hlist rfl
  | postgresql => exact hfrom rfl
  | sqlite => exact hfrom rfl
  | sqlserver => exact hupdated.bind fun t _ => decides_ok _
  | h2 =>
    refine (decides_refuseLimit _ limit).bind fun _ _ => hupdated.bind fun t _ => ?_
    refine decides_refuseIf (fun hparts => ?_) fun hpart => ?_
    · split
      · rename_i part hj
        exact absurd (by rw [hj]; rfl) hparts
      · rfl
    · obtain ⟨part, hj⟩ := List.length_eq_one_iff.1 (Classical.not_not.1 hpart)
      rw [hj]
      exact ⟨_, rfl⟩
  | oracle =>
    refine hupdated.bind fun t _ => decides_first (fun before a after has hbefore ha => ?_)
      fun hall => ?_
    · rw [has, boundExpression?_eq_some hbefore ha]
    · rw [(boundExpression?_eq_none_iff as).2 hall]
      exact ⟨_, rfl⟩

theorem decides_planTarget (ctx : Context) {u : Update} (hne : u.assignments ≠ []) :
    Decides (planTarget (ctx.dialectOf u.target) u.target u.assignments u.limit)
      (targetChecks ctx u) := by
  rw [targetChecks]
  cases u.target with
  | table t => exact decides_planTable ctx.tableDialect t u.limit
  | join j => exact decides_planJoin ctx.joinDialect j u.limit hne
  | aliased t name => exact decides_always _
  | subquery sql name => exact decides_always _

theorem decides_render (ctx : Context) (u : Update) :
    Decides (u.render ctx) (acceptanceTable ctx u) := by
  have hsteps : u.render ctx =
      ((if u.assignments.isEmpty then .error .emptyAssignments else .ok ()) >>= fun _ =>
        (planTarget (ctx.dialectOf u.target) u.target u.assignments u.limit).map fun form =>
          ⟨ctx.dialectOf u.target, Plan.pieces ⟨form, u.assignments, u.filter⟩,
            form.warnings⟩) := by
    rw [Update.render]
    split <;> rfl
  rw [hsteps]
  have hassigned : Decides (if u.assignments.isEmpty then .error .emptyAssignments else .ok ())
      [.refuseIf (u.assignments = []) .emptyAssignments] := by
    refine decides_refuseIf (fun h => ?_) fun h => ⟨(), ?_⟩
    · rw [if_pos (List.isEmpty_iff.2 h)]
    · rw [if_neg fun he => h (List.isEmpty_iff.1 he)]
  refine hassigned.bind fun _ hok => (decides_planTarget ctx fun hnil => ?_).map _
  rw [hnil] at hok
  cases hok

end SqlUpdate
