import SqlUpdate.Proofs.Binding.StatementFile
import SqlUpdate.Proofs.Statement.AssignedColumns
/-!
# What a sequence of steps builds

A statement is put together in steps of three groups, and every group has a part of the statement
to itself: the assignments, the condition on the rows, and the limit.

* `Step.group`, `applyAll_congr` — steps of different groups can change places.
* `FilterOf`, `filterOf_applyAll` — the condition that is left by replacing and adding to it.
* `assignments_applyAll` — the assignments that are left: one for each column, the last one.
* `built_by_steps` — all of it together, for every sequence of steps.
-/

namespace SqlUpdate

/-! ### Steps of different groups -/

/-- The part of a statement that a step changes. -/
inductive Step.Group where
  | assignments
  | filter
  | limit
  deriving DecidableEq

namespace Step

def group : Step → Group
  | .assign _ _ => .assignments
  | .filterBy _ | .alsoFilterBy _ => .filter
  | .limitTo _ => .limit

/-- The assignment of a step that assigns. -/
def assignment? : Step → Option Assignment
  | .assign c v => some ⟨c, v⟩
  | _ => none

/-- What a step adds to the condition on the rows. -/
def added? : Step → Option Expr
  | .alsoFilterBy e => some e
  | _ => none

def limit? : Step → Option Nat
  | .limitTo n => some n
  | _ => none

/-- The steps of one group, in their order. -/
def ofGroup (g : Group) (steps : List Step) : List Step := steps.filter fun s => s.group = g

end Step

/-- A part of the statement that only the steps of one group look at or change is left the same if
the other steps are left out. -/
theorem part_applyAll {α : Type} (part : Update → α) (g : Step.Group)
    (hown : ∀ (u w : Update) (s : Step), part u = part w → part (u.apply s) = part (w.apply s))
    (hother : ∀ (u : Update) (s : Step), s.group ≠ g → part (u.apply s) = part u)
    (u w : Update) (h : part u = part w) (steps : List Step) :
    part (u.applyAll steps) = part (w.applyAll (Step.ofGroup g steps)) := by
  induction steps generalizing u w with
  | nil => exact h
  | cons s steps ih =>
    by_cases hs : s.group = g
    · rw [Step.ofGroup, List.filter_cons_of_pos (by simpa using hs)]
      exact ih _ _ (hown u w s h)
    · rw [Step.ofGroup, List.filter_cons_of_neg (by simpa using hs)]
      exact ih _ _ ((hother u s hs).trans h)

theorem assignments_applyAll_ofGroup (u : Update) (steps : List Step) :
    (u.applyAll steps).assignments
      = (u.applyAll (Step.ofGroup .assignments steps)).assignments := by
  refine part_applyAll Update.assignments .assignments (fun u w s h => ?_) (fun u s hs => ?_)
    u u rfl steps
  · cases s with
    | assign c v => exact congrArg (reassign c v) h
    | filterBy e => exact h
    | alsoFilterBy e => exact h
    | limitTo n => exact h
  · cases s with
    | assign c v => exact absurd rfl hs
    | filterBy e => rfl
    | alsoFilterBy e => rfl
    | limitTo n => rfl

theorem filter_applyAll_ofGroup (u : Update) (steps : List Step) :
    (u.applyAll steps).filter = (u.applyAll (Step.ofGroup .filter steps)).filter := by
  refine part_applyAll Update.filter .filter (fun u w s h => ?_) (fun u s hs => ?_) u u rfl steps
  · cases s with
    | assign c v => exact h
    | filterBy e => rfl
    | alsoFilterBy e =>
      show some _ = some _
      rw [h]
    | limitTo n => exact h
  · cases s with
    | assign c v => rfl
    | filterBy e => exact absurd rfl hs
    | alsoFilterBy e => exact absurd rfl hs
    | limitTo n => rfl

theorem limit_applyAll_ofGroup (u : Update) (steps : List Step) :
    (u.applyAll steps).limit = (u.applyAll (Step.ofGroup .limit steps)).limit := by
  refine part_applyAll Update.limit .limit (fun u w s h => ?_) (fun u s hs => ?_) u u rfl steps
  · cases s with
    | assign c v => exact h
    | filterBy e => exact h
    | alsoFilterBy e => exact h
    | limitTo n => rfl
  · cases s with
    | assign c v => rfl
    | filterBy e => rfl
    | alsoFilterBy e => rfl
    | limitTo n => exact absurd rfl hs

/-- Only the order within each group matters. -/
theorem applyAll_congr (u : Update) {steps steps' : List Step}
    (h : ∀ g, Step.ofGroup g steps' = Step.ofGroup g steps) :
    u.applyAll steps' = u.applyAll steps := by
  have htarget : (u.applyAll steps').target = (u.applyAll steps).target := by
    rw [target_applyAll, target_applyAll]
  have hassignments : (u.applyAll steps').assignments = (u.applyAll steps).assignments := by
    rw [assignments_applyAll_ofGroup, h, ← assignments_applyAll_ofGroup]
  have hfilter : (u.applyAll steps').filter = (u.applyAll steps).filter := by
    rw [filter_applyAll_ofGroup, h, ← filter_applyAll_ofGroup]
  have hlimit : (u.applyAll steps').limit = (u.applyAll steps).limit := by
    rw [limit_applyAll_ofGroup, h, ← limit_applyAll_ofGroup]
  generalize u.applyAll steps' = v at *
  generalize u.applyAll steps = w at *
  cases v
  cases w
  simp_all

/-! ### Assignments -/

theorem assignments_apply (u : Update) (s : Step) : (u.apply s).assignments =
    match s.assignment? with
    | some a => put (fun a => a.column.key) a u.assignments
    | none => u.assignments := by
  cases s with
  | assign c v => exact reassign_eq_put c v u.assignments
  | filterBy e => rfl
  | alsoFilterBy e => rfl
  | limitTo n => rfl

/-- Every step that assigns puts its assignment among those that there are. -/
theorem assignments_applyAll (u : Update) (steps : List Step) : (u.applyAll steps).assignments =
    (steps.filterMap Step.assignment?).foldl
      (fun as a => put (fun a => a.column.key) a as) u.assignments := by
  induction steps generalizing u with
  | nil => rfl
  | cons s steps ih =>
    have hrest : (u.applyAll (s :: steps)).assignments = _ := ih (u.apply s)
    rw [hrest, assignments_apply, List.filterMap_cons]
    cases s.assignment? <;> rfl

/-- An entry is the last one of its key if no entry behind it has that key. -/
theorem mem_lastOfEach {α κ : Type} [DecidableEq κ] (key : α → κ) (l : List α) (x : α) :
    x ∈ lastOfEach key l ↔
      ∃ before after, l = before ++ x :: after ∧ ∀ y ∈ after, key y ≠ key x := by
  simp only [lastOfEach, List.mem_filterMap, List.mem_eraseDups, List.find?_eq_some_iff_append]
  constructor
  · rintro ⟨k, -, hx, after, before, hl, hafter⟩
    obtain rfl : key x = k := by simpa using hx
    refine ⟨before.reverse, after.reverse, ?_, fun y hy => ?_⟩
    · rw [← List.reverse_reverse l, hl]
      simp
    · simpa using hafter y (List.mem_reverse.1 hy)
  · rintro ⟨before, after, rfl, hafter⟩
    refine ⟨key x, by simp, by simp, after.reverse, before.reverse, by simp, fun y hy => ?_⟩
    simpa using hafter y (List.mem_reverse.1 hy)

/-! ### The condition on the rows -/

/-- The condition that steps leave when there is none at first. If some step replaces the condition,
it is that of the last such step, and the conditions added behind it; otherwise it is the first one
that is added, and the others. What is added later stands outside. -/
def FilterOf (steps : List Step) (filter : Option Expr) : Prop :=
  (∃ before e after, steps = before ++ .filterBy e :: after ∧ (∀ f, .filterBy f ∉ after) ∧
    filter = some ((after.filterMap Step.added?).foldl Expr.and e)) ∨
  ((∀ f, .filterBy f ∉ steps) ∧
    filter = match steps.filterMap Step.added? with
      | [] => none
      | e :: es => some (es.foldl Expr.and e))

/-- A step that does not touch the condition. -/
theorem FilterOf.concat {steps : List Step} {filter : Option Expr} (h : FilterOf steps filter)
    {s : Step} (hs : s.group ≠ .filter) : FilterOf (steps ++ [s]) filter := by
  have hadded : s.added? = none := by
    cases s with
    | alsoFilterBy e => exact absurd rfl hs
    | _ => rfl
  have hreplaces : ∀ f, Step.filterBy f ≠ s := by
    rintro f rfl
    exact hs rfl
  rcases h with ⟨before, e, after, rfl, hlast, rfl⟩ | ⟨hnone, rfl⟩
  · exact .inl ⟨before, e, after ++ [s], by simp, by simp [hlast, hreplaces], by simp [hadded]⟩
  · exact .inr ⟨by simp [hnone, hreplaces], by simp [hadded]⟩

/-- A step that adds to the condition. -/
theorem FilterOf.alsoFilterBy {steps : List Step} {u : Update} (h : FilterOf steps u.filter)
    (e : Expr) : FilterOf (steps ++ [.alsoFilterBy e]) (u.alsoFilterBy e).filter := by
  rcases h with ⟨before, f, after, rfl, hlast, hfilter⟩ | ⟨hnone, hfilter⟩
  · refine .inl ⟨before, f, after ++ [.alsoFilterBy e], by simp, by simp [hlast], ?_⟩
    simp [Update.alsoFilterBy, hfilter, Step.added?]
  · refine .inr ⟨by simp [hnone], ?_⟩
    rw [Update.alsoFilterBy, hfilter, List.filterMap_append]
    cases steps.filterMap Step.added? <;> simp [Step.added?]

theorem filterOf_applyAll {u : Update} (hu : u.filter = none) (steps : List Step) :
    FilterOf steps (u.applyAll steps).filter := by
  -- The last step that replaces the condition decides, so steps are taken off at the end.
  induction steps using List.reverseRecOn with
  | nil => exact .inr ⟨by simp, hu⟩
  | append_singleton steps s ih =>
    rw [Update.applyAll, List.foldl_concat]
    cases s with
    | assign c v => exact ih.concat nofun
    | filterBy e => exact .inl ⟨steps, e, [], rfl, by simp, rfl⟩
    | alsoFilterBy e => exact ih.alsoFilterBy e
    | limitTo n => exact ih.concat nofun

/-! ### The limit -/

theorem limit_applyAll (u : Update) (steps : List Step) :
    (u.applyAll steps).limit = (steps.filterMap Step.limit?).getLast?.or u.limit := by
  induction steps using List.reverseRecOn with
  | nil => rfl
  | append_singleton steps s ih =>
    rw [Update.applyAll, List.foldl_concat, List.filterMap_append]
    cases s with
    | limitTo n => simp [Step.limit?, Update.apply, Update.limitTo]
    | _ => exact ih.trans (by simp [Step.limit?])

/-! ### The statement -/

/-- **Steps build an ordered map, a condition and a limit.** Whatever the steps are, the statement
assigns each column once, in the order in which columns are first assigned, and an assignment is in
it exactly if it is the last one of its column. Its condition is as `FilterOf` says, and its limit
is the last one. Steps that have the same order within each group build the same statement. -/
theorem built_by_steps (t : Target) (steps : List Step) :
    let u := (Update.of t).applyAll steps
    let assigned := steps.filterMap Step.assignment?
    u.target = t ∧
    u.keys = (assigned.map fun a => a.column.key).eraseDups ∧ u.keys.Nodup ∧
    (∀ a, a ∈ u.assignments ↔ ∃ before after, assigned = before ++ a :: after ∧
      ∀ b ∈ after, b.column.key ≠ a.column.key) ∧
    FilterOf steps u.filter ∧
    u.limit = (steps.filterMap Step.limit?).getLast? ∧
    ∀ steps', (∀ g, Step.ofGroup g steps' = Step.ofGroup g steps) →
      (Update.of t).applyAll steps' = u := by
  intro u assigned
  have hput : u.assignments = assigned.foldl (fun as a => put (fun a => a.column.key) a as) [] :=
    assignments_applyAll (Update.of t) steps
  have hlast : u.assignments = lastOfEach (fun a => a.column.key) assigned :=
    hput.trans (foldl_put _ assigned)
  have hkeys : u.keys = (assigned.map fun a => a.column.key).eraseDups := by
    rw [Update.keys, hput, map_key_foldl_put]
    convert rfl
  refine ⟨target_applyAll _ steps, hkeys,
    nodup_keys_applyAll (u := .of t) List.nodup_nil steps, fun a => ?_,
    filterOf_applyAll (u := .of t) rfl steps, ?_, fun steps' h => applyAll_congr (.of t) h⟩
  · rw [hlast]
    exact mem_lastOfEach _ assigned a
  · exact (limit_applyAll (.of t) steps).trans Option.or_none

/-- Steps in which a column is assigned again with another type, a column of another table has the
same name, and the condition is replaced between additions. -/
def mixedSteps : List Step :=
  [.alsoFilterBy (.raw "a"), .assign ⟨"users", "name", .varchar⟩ (.value (.text "old")),
    .limitTo 1, .assign ⟨"cities", "name", .varchar⟩ (.value .null), .filterBy (.raw "b"),
    .alsoFilterBy (.raw "c"), .assign ⟨"users", "name", .text⟩ (.value (.text "new")),
    .alsoFilterBy (.raw "d"), .limitTo 2]

/-- The same steps, group by group. -/
def groupedSteps : List Step :=
  [.limitTo 1, .limitTo 2, .alsoFilterBy (.raw "a"), .filterBy (.raw "b"), .alsoFilterBy (.raw "c"),
    .alsoFilterBy (.raw "d"), .assign ⟨"users", "name", .varchar⟩ (.value (.text "old")),
    .assign ⟨"cities", "name", .varchar⟩ (.value .null),
    .assign ⟨"users", "name", .text⟩ (.value (.text "new"))]

/-- The new name takes the place of the old one, and the first condition is gone. -/
theorem built_by_steps_groupedSteps :
    let t : Target := .table ⟨"users", [("name", .text)]⟩
    (Update.of t).applyAll groupedSteps = (Update.of t).applyAll mixedSteps ∧
      (Update.of t).applyAll mixedSteps =
        ⟨t, [⟨⟨"users", "name", .text⟩, .value (.text "new")⟩,
          ⟨⟨"cities", "name", .varchar⟩, .value .null⟩],
          some (((Expr.raw "b").and (.raw "c")).and (.raw "d")), some 2⟩ :=
  have hgroups : ∀ g, Step.ofGroup g groupedSteps = Step.ofGroup g mixedSteps := by
    intro g
    cases g <;> rfl
  ⟨(built_by_steps _ mixedSteps).2.2.2.2.2.2 groupedSteps hgroups, rfl⟩

end SqlUpdate
