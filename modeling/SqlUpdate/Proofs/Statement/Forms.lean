import SqlUpdate.Update.Compile
/-!
# Which forms arise

A statement is planned before it is written. The lemmas here say once and for all what a successful
plan knows, so that nothing else has to open the decisions.

* `planTable_eq_ok`, `planJoin_eq_ok` — the forms that planning gives, with what was checked.
* `JoinPlanned.planJoin_eq` — nothing else is checked.
* `render_eq_ok`, `render_join_eq_ok` — a rendered statement is a planned one.
* `compile_eq_ok`, `compile_of_render`, `inline_of_render` — texts are those of a rendered
  statement.
* `map_text_render` — the texts, errors included, from the plan.
* `dialectOf_of_ne_h2` — databases other than H2 write in their own dialect.
* `map_snd_aliased` — the columns of a view stand for the assignments in order.
-/

namespace SqlUpdate

/-- A bind succeeds if both of its steps do. -/
theorem bind_eq_ok {ε α β : Type} {x : Except ε α} {f : α → Except ε β} {b : β}
    (h : x >>= f = .ok b) : ∃ a, x = .ok a ∧ f a = .ok b := by
  cases x with
  | error e => cases h
  | ok a => exact ⟨a, rfl, h⟩

theorem refuseLimit_eq_ok {cause : Unsupported} {limit : Option Nat} {u : Unit}
    (h : refuseLimit cause limit = .ok u) : limit = none := by
  cases limit with
  | none => rfl
  | some n => cases h

/-! ### Tables -/

/-- A limit of a table is written in the style of the dialect. -/
theorem planTable_eq_ok {d : Dialect} {t : Table} {limit : Option Nat} {form : Form}
    (h : planTable d t limit = .ok form) :
    (limit = none ∧ form = .table t none) ∨
      ∃ n style, limit = some n ∧ d.limitStyle? = some style ∧
        form = .table t (some (style, n)) := by
  cases limit with
  | none => cases h; exact .inl ⟨rfl, rfl⟩
  | some n =>
    cases hs : d.limitStyle? with
    | none => simp [planTable, hs] at h
    | some style =>
      have hf : .table t (some (style, n)) = form := by simpa [planTable, hs] using h
      exact .inr ⟨n, style, rfl, rfl, hf.symm⟩

/-! ### Joins -/

/-- What is known of a join once its form is decided. -/
inductive JoinPlanned (d : Dialect) (j : Join) (as : List Assignment) (limit : Option Nat) :
    Form → Prop where
  /-- All tables are updated. -/
  | list : d.joinStyle = .list → limit = none → requireJoined j as = .ok () →
      JoinPlanned d j as limit (.list j)
  /-- One table is updated from the others. -/
  | «from» {qualified top : Bool} {t : Table} : d.joinStyle = .from qualified top →
      (top = false → limit = none) → updatedTable d j as = .ok t →
      JoinPlanned d j as limit (.from t j qualified limit)
  /-- One table is merged into another. -/
  | merge {t : Table} {part : JoinPart} : d.joinStyle = .merge → limit = none →
      updatedTable d j as = .ok t → j.parts = [part] →
      JoinPlanned d j as limit (.merge t (mergeSource t j part) part)
  /-- A query is updated. -/
  | view {t : Table} : d.joinStyle = .view → updatedTable d j as = .ok t →
      boundExpression? as = none → JoinPlanned d j as limit (.view j limit)

/-- A join is planned in the style of the dialect, and all checks have passed. -/
theorem planJoin_eq_ok {d : Dialect} {j : Join} {as : List Assignment} {limit : Option Nat}
    {form : Form} (h : planJoin d j as limit = .ok form) : JoinPlanned d j as limit form := by
  unfold planJoin at h
  split at h
  · cases h
  · rename_i hs
    obtain ⟨_, hlimit, h⟩ := bind_eq_ok h
    obtain ⟨_, hjoined, h⟩ := bind_eq_ok h
    cases h
    exact .list hs (refuseLimit_eq_ok hlimit) hjoined
  · rename_i qualified top hs
    cases top with
    | false =>
      obtain ⟨_, hlimit, h⟩ := bind_eq_ok h
      obtain ⟨t, ht, h⟩ := bind_eq_ok h
      cases h
      exact .from hs (fun _ => refuseLimit_eq_ok hlimit) ht
    | true =>
      obtain ⟨t, ht, h⟩ := bind_eq_ok h
      cases h
      exact .from hs (fun h => nomatch h) ht
  · rename_i hs
    obtain ⟨_, hlimit, h⟩ := bind_eq_ok h
    obtain ⟨t, ht, h⟩ := bind_eq_ok h
    split at h
    · rename_i part hp
      cases h
      exact .merge hs (refuseLimit_eq_ok hlimit) ht hp
    · cases h
  · rename_i hs
    obtain ⟨t, ht, h⟩ := bind_eq_ok h
    split at h
    · cases h
    · rename_i hb
      cases h
      exact .view hs ht hb

theorem updatedTable_eq_ok_iff {d : Dialect} {j : Join} {as : List Assignment} {t : Table} :
    updatedTable d j as = .ok t ↔ requireJoined j as = .ok () ∧ commonTable? j as = some t := by
  constructor
  · intro h
    obtain ⟨_, hjoined, h⟩ := bind_eq_ok h
    refine ⟨hjoined, ?_⟩
    split at h
    · rename_i hcommon
      rw [hcommon, Except.ok.inj h]
    · cases h
  · rintro ⟨hjoined, hcommon⟩
    rw [updatedTable, hjoined, hcommon]
    rfl

/-- Once the checks have passed, a join is planned. -/
theorem JoinPlanned.planJoin_eq {d : Dialect} {j : Join} {as : List Assignment}
    {limit : Option Nat} {form : Form} (h : JoinPlanned d j as limit form) :
    planJoin d j as limit = .ok form := by
  cases h with
  | list hs hlimit hjoined =>
    subst hlimit
    rw [planJoin, hs, hjoined]
    rfl
  | @«from» qualified top t hs hlimit ht =>
    cases top with
    | false =>
      obtain rfl := hlimit rfl
      rw [planJoin, hs, ht]
      rfl
    | true =>
      rw [planJoin, hs, ht]
      rfl
  | merge hs hlimit ht hp =>
    subst hlimit
    rw [planJoin, hs, ht, hp]
    rfl
  | view hs ht hb =>
    rw [planJoin, hs, ht, hb]
    rfl

/-! ### Statements -/

/-- A rendered statement assigns something, and is written in the form that was planned. -/
theorem render_eq_ok {ctx : Context} {u : Update} {s : Rendered} (h : u.render ctx = .ok s) :
    u.assignments ≠ [] ∧ ∃ form,
      planTarget (ctx.dialectOf u.target) u.target u.assignments u.limit = .ok form ∧
      s = ⟨ctx.dialectOf u.target, Plan.pieces ⟨form, u.assignments, u.filter⟩, form.warnings⟩ := by
  unfold Update.render at h
  split at h
  · cases h
  · rename_i hne
    obtain ⟨form, hform, h⟩ := bind_eq_ok h
    cases h
    exact ⟨fun he => hne (by rw [he]; rfl), form, hform, rfl⟩

/-- Only tables and joins are planned. -/
theorem planTarget_eq_ok {d : Dialect} {t : Target} {as : List Assignment} {limit : Option Nat}
    {form : Form} (h : planTarget d t as limit = .ok form) :
    (∃ table, t = .table table ∧ planTable d table limit = .ok form) ∨
      ∃ j, t = .join j ∧ planJoin d j as limit = .ok form := by
  cases t with
  | table table => exact .inl ⟨table, rfl, h⟩
  | join j => exact .inr ⟨j, rfl, h⟩
  | aliased table name => cases h
  | subquery sql name => cases h

/-- A rendered statement on a join is written in the dialect of joins. -/
theorem render_join_eq_ok {ctx : Context} {u : Update} {j : Join} {s : Rendered}
    (htarget : u.target = .join j) (h : u.render ctx = .ok s) :
    ∃ form, JoinPlanned ctx.joinDialect j u.assignments u.limit form ∧
      s = ⟨ctx.joinDialect, Plan.pieces ⟨form, u.assignments, u.filter⟩, form.warnings⟩ := by
  obtain ⟨-, form, hform, rfl⟩ := render_eq_ok h
  rw [htarget] at hform ⊢
  exact ⟨form, planJoin_eq_ok hform, rfl⟩

/-- A compiled text is that of a rendered statement. -/
theorem compile_eq_ok {ctx : Context} {u : Update} {sql : String} (h : u.compile ctx = .ok sql) :
    ∃ s, u.render ctx = .ok s ∧ s.text .prepared = sql := by
  cases hs : u.render ctx with
  | error e => rw [Update.compile, hs] at h; cases h
  | ok s =>
    rw [Update.compile, hs] at h
    exact ⟨s, rfl, Except.ok.inj h⟩

theorem compile_of_render {ctx : Context} {u : Update} {s : Rendered} (h : u.render ctx = .ok s) :
    u.compile ctx = .ok (s.text .prepared) := by
  rw [Update.compile, h]; rfl

theorem inline_of_render {ctx : Context} {u : Update} {s : Rendered} (h : u.render ctx = .ok s) :
    u.inline ctx = .ok (s.text .inlined) := by
  rw [Update.inline, h]; rfl

/-- The texts of a statement, from its plan. The context plays a part in no other way than by the
dialect. -/
theorem map_text_render (ctx : Context) (u : Update) (r : Reading) :
    (u.render ctx).map (fun s => s.text r) =
      if u.assignments.isEmpty then .error .emptyAssignments
      else (planTarget (ctx.dialectOf u.target) u.target u.assignments u.limit).map fun form =>
        textOf (ctx.dialectOf u.target) r (Plan.pieces ⟨form, u.assignments, u.filter⟩) := by
  rw [Update.render]
  split
  · rfl
  · show (planTarget (ctx.dialectOf u.target) u.target u.assignments u.limit >>= _).map _ = _
    cases planTarget (ctx.dialectOf u.target) u.target u.assignments u.limit <;> rfl

/-! ### Contexts -/

theorem tableDialect_of_ne_h2 {ctx : Context} (h : ctx.dialect ≠ .h2) :
    ctx.tableDialect = ctx.dialect := by
  simp [Context.tableDialect, Context.mode?, h]

theorem joinDialect_of_ne_h2 {ctx : Context} (h : ctx.dialect ≠ .h2) :
    ctx.joinDialect = ctx.dialect := by
  simp [Context.joinDialect, Context.tableDialect, Context.mode?, h]

/-- A mode that is set for another database means nothing. -/
theorem dialectOf_of_ne_h2 {ctx : Context} (h : ctx.dialect ≠ .h2) (t : Target) :
    ctx.dialectOf t = ctx.dialect := by
  cases t with
  | join j => exact joinDialect_of_ne_h2 h
  | _ => exact tableDialect_of_ne_h2 h

/-! ### Aliases -/

/-- The numbers are given to the assignments in order. -/
theorem map_snd_aliased (n : Nat) (as : List Assignment) : (aliased n as).map Prod.snd = as := by
  induction as generalizing n with
  | nil => rfl
  | cons a as ih => rw [aliased, List.map_cons, ih]

theorem snd_mem_of_mem_aliased {n : Nat} {as : List Assignment} {c : Nat × Assignment}
    (h : c ∈ aliased n as) : c.2 ∈ as := by
  rw [← map_snd_aliased n as]
  exact List.mem_map_of_mem h

end SqlUpdate
