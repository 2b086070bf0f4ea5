import SqlUpdate.Proofs.Binding.Order
/-!
# What an H2 database does in the mode of another vendor

A statement meets its context in three places: the dialect of tables, the dialect of joins, and the
question whether the condition is bound in front of the assignments. The third follows from the
second, so that all results are settled by the dialect that writes the statement.

* `Update.SameResults` — two contexts give the same texts or errors and the same batches.
* `sameResults_of_dialectOf_eq` — they do so if one dialect writes the statement in both.
* `dialectOf_tableVendors` — who writes for an H2 database that imitates tables only.
* `modes_refine_vendors` — which modes agree with which vendors, on which relations.
-/

namespace SqlUpdate

/-! ### Results and who writes the statement -/

/-- Both texts, or the errors in their place, and the batches of arguments are the same. -/
structure Update.SameResults (u : Update) (ctx ctx' : Context) : Prop where
  compile : u.compile ctx = u.compile ctx'
  inline : u.inline ctx = u.inline ctx'
  arguments : u.arguments ctx = u.arguments ctx'

/-- Only an updated view has its condition in front, and only one dialect updates views. -/
theorem filterFirst_eq_of_dialectOf_eq {ctx ctx' : Context} {u : Update}
    (h : ctx.dialectOf u.target = ctx'.dialectOf u.target) :
    u.filterFirst ctx = u.filterFirst ctx' := by
  unfold Update.filterFirst
  cases ht : u.target with
  | join j =>
    rw [ht] at h
    have hjoin : ctx.joinDialect = ctx'.joinDialect := h
    show ctx.isOracle = ctx'.isOracle
    rw [isOracle_eq_of_joinStyle, isOracle_eq_of_joinStyle, hjoin]
  | table t => rfl
  | aliased t name => rfl
  | subquery sql name => rfl

theorem sameResults_of_dialectOf_eq {ctx ctx' : Context} {u : Update}
    (h : ctx.dialectOf u.target = ctx'.dialectOf u.target) : u.SameResults ctx ctx' where
  compile := by
    rw [Update.compile, Update.compile, map_text_render, map_text_render, h]
  inline := by
    rw [Update.inline, Update.inline, map_text_render, map_text_render, h]
  arguments := by
    rw [Update.arguments, Update.argumentList, filterFirst_eq_of_dialectOf_eq h]
    rfl

/-! ### Who writes the statement -/

/-- The vendors whose UPDATE of a join an H2 database does not imitate, with their modes. -/
def tableVendors : List (Mode × Dialect) :=
  [(.postgresql, .postgresql), (.oracle, .oracle), (.sqlserver, .sqlserver)]

theorem dialectOf_tableVendors {vendor : Mode × Dialect} (h : vendor ∈ tableVendors) (t : Target) :
    (Context.h2 vendor.1).dialectOf t = if t.kind = .join then .h2 else vendor.2 := by
  simp only [tableVendors, List.mem_cons, List.not_mem_nil, or_false] at h
  cases t with
  | join j => rcases h with rfl | rfl | rfl <;> rfl
  | table t => rcases h with rfl | rfl | rfl <;> rfl
  | aliased t name => rcases h with rfl | rfl | rfl <;> rfl
  | subquery sql name => rcases h with rfl | rfl | rfl <;> rfl

/-- No vendor in the list is H2 itself. -/
theorem ne_h2_of_mem_tableVendors {vendor : Mode × Dialect} (h : vendor ∈ tableVendors) :
    vendor.2 ≠ .h2 := by
  revert vendor
  decide

/-- **A mode imitates its vendor.** In the modes of MySQL and MariaDB an H2 database gives the
results of the vendor for every statement. In the modes of PostgreSQL, Oracle and SQL Server it does
so unless a join is updated; then it gives the results that it gives without imitating anyone, and
in particular the assigned values come before those of the condition, where an Oracle database
has them the other way round. Having no mode is the regular one, and other databases have none. -/
theorem modes_refine_vendors (u : Update) :
    u.SameResults (.h2 .mysql) (.of .mysql) ∧
    u.SameResults (.h2 .mariadb) (.of .mariadb) ∧
    (∀ vendor ∈ tableVendors,
      (u.target.kind ≠ .join → u.SameResults (.h2 vendor.1) (.of vendor.2)) ∧
      (u.target.kind = .join → u.SameResults (.h2 vendor.1) (.h2 .regular))) ∧
    (u.target.kind = .join →
      (u.arguments (.h2 .oracle)).flatten = u.assignedArguments ++ u.filterArguments ∧
      (u.arguments (.of .oracle)).flatten = u.filterArguments ++ u.assignedArguments) ∧
    u.SameResults ⟨.h2, none⟩ (.h2 .regular) ∧
    ∀ d, d ≠ .h2 → ∀ mode mode', u.SameResults ⟨d, mode⟩ ⟨d, mode'⟩ := by
  refine ⟨?_, ?_, fun vendor hvendor => ⟨fun hkind => ?_, fun hkind => ?_⟩, fun hkind => ?_, ?_,
    fun d hd mode mode' => ?_⟩
  · apply sameResults_of_dialectOf_eq
    cases u.target <;> rfl
  · apply sameResults_of_dialectOf_eq
    cases u.target <;> rfl
  · apply sameResults_of_dialectOf_eq
    rw [dialectOf_tableVendors hvendor, if_neg hkind,
      dialectOf_of_ne_h2 (ne_h2_of_mem_tableVendors hvendor)]
    rfl
  · apply sameResults_of_dialectOf_eq
    rw [dialectOf_tableVendors hvendor, if_pos hkind]
    cases u.target <;> rfl
  · rw [flatten_arguments, flatten_arguments, Update.argumentList, Update.argumentList,
      Update.filterFirst, Update.filterFirst]
    cases ht : u.target with
    | join j => exact ⟨rfl, rfl⟩
    | table t => rw [ht] at hkind; cases hkind
    | aliased t name => rw [ht] at hkind; cases hkind
    | subquery sql name => rw [ht] at hkind; cases hkind
  · apply sameResults_of_dialectOf_eq
    cases u.target <;> rfl
  · apply sameResults_of_dialectOf_eq
    rw [dialectOf_of_ne_h2 hd, dialectOf_of_ne_h2 hd]

/-- A statement on a join of two tables that binds a value of type `varchar` in an assignment and
one of type `text` in its condition. -/
def orderExample : Update where
  target := .join (.on (.ofTable (.empty "t")) .left (.empty "u") ⟨"t", "id", .integer⟩
    ⟨"u", "id", .integer⟩)
  assignments := [⟨⟨"t", "a", .varchar⟩, .value .null⟩]
  filter := some (Column.compare ⟨"t", "b", .text⟩ .eq .null)
  limit := none

theorem modes_refine_vendors_orderExample :
    orderExample.target.kind = .join ∧
      orderExample.SameResults (.h2 .oracle) (.h2 .regular) ∧
      (orderExample.arguments (.h2 .oracle)).flatten.map Argument.type = [.varchar, .text] ∧
      (orderExample.arguments (.of .oracle)).flatten.map Argument.type = [.text, .varchar] := by
  have hkind : orderExample.target.kind = .join := rfl
  obtain ⟨-, -, hvendors, horder, -, -⟩ := modes_refine_vendors orderExample
  obtain ⟨hmode, hnative⟩ := horder hkind
  refine ⟨hkind, (hvendors (.oracle, .oracle) (by decide)).2 hkind, ?_, ?_⟩
  · rw [hmode]
    rfl
  · rw [hnative]
    rfl

end SqlUpdate
