import Mathlib.Data.List.Forall2
import SqlUpdate.Proofs.Binding.Filling
import SqlUpdate.Proofs.Statement.AssignedColumns
/-!
# Where the conditions of a join are written

A statement on a join has one place for each condition of each part, whether it is written behind
`ON` or behind `WHERE`. The places are found by putting other conditions into the join: what is
written around them stays the same.

* `Join.SameShape` — joins of the same tables, on as many conditions.
* `Patterned` — texts that differ in certain places only, one for each condition.
* `patterned_joinPieces`, `patterned_joinedWherePieces`, ... — the clauses that conditions stand in.
* `conditions_planJoin` — every planned statement on a join has a place for each condition.
-/

namespace SqlUpdate

/-- Whether a part joins the same table in the same way, on as many conditions. -/
structure JoinPart.SameShape (p q : JoinPart) : Prop where
  kind : q.kind = p.kind
  table : q.table = p.table
  pairs : q.pairs.length = p.pairs.length
  constraint : q.constraint.isSome = p.constraint.isSome

/-- Whether a join is one of the same tables in the same order, on as many conditions in each
part. -/
structure Join.SameShape (j k : Join) : Prop where
  lead : k.lead = j.lead
  parts : List.Forall₂ JoinPart.SameShape j.parts k.parts

theorem Join.SameShape.refl (j : Join) : j.SameShape j :=
  ⟨rfl, List.forall₂_same.2 fun _ _ => ⟨rfl, rfl, rfl, rfl⟩⟩

def Join.conditions (j : Join) : List (List Piece) := j.parts.flatMap JoinPart.conditions

/-! ### Texts with gaps -/

theorem filled_nil (s : String) : filled s [] [] = s := String.append_empty

/-- Texts with gaps, one behind the other, are a text with the gaps of both. -/
theorem exists_filled_append (first : String) (rest : List String) (first' : String)
    (rest' : List String) : ∃ f r, r.length = rest.length + rest'.length ∧
      ∀ gaps gaps' : List String, gaps.length = rest.length →
        filled first rest gaps ++ filled first' rest' gaps' = filled f r (gaps ++ gaps') := by
  induction rest generalizing first with
  | nil =>
    refine ⟨first ++ first', rest', by simp, fun gaps gaps' hlength => ?_⟩
    rw [List.eq_nil_of_length_eq_zero hlength, filled_nil, append_filled]
    rfl
  | cons second rest ih =>
    obtain ⟨f, r, hr, happend⟩ := ih second
    refine ⟨first, f :: r, ?_, fun gaps gaps' hlength => ?_⟩
    · simp only [List.length_cons, hr]
      omega
    · cases gaps with
      | nil => cases hlength
      | cons gap gaps =>
        rw [List.length_cons, List.length_cons] at hlength
        rw [List.cons_append, filled_cons, filled_cons, ← happend gaps gaps' (by omega),
          String.append_assoc, String.append_assoc]

/-- The texts of certain pieces differ in the places of their gaps only. -/
def Patterned {α : Type} (d : Dialect) (S : α → Prop) (f : α → List Piece)
    (gaps : α → List (List Piece)) : Prop :=
  ∃ first rest, ∀ x, S x → rest.length = (gaps x).length ∧
    textOf d .prepared (f x) = filled first rest ((gaps x).map (textOf d .prepared))

section Patterned

variable {α : Type} {d : Dialect} {S : α → Prop} {f f' : α → List Piece}
  {gaps gaps' : α → List (List Piece)}

theorem patterned_const (ps : List Piece) : Patterned d S (fun _ => ps) fun _ => [] :=
  ⟨textOf d .prepared ps, [], fun _ _ => ⟨rfl, (filled_nil _).symm⟩⟩

theorem Patterned.congr (h : Patterned d S f gaps) (hf : ∀ x, S x → f' x = f x)
    (hgaps : ∀ x, S x → gaps' x = gaps x) : Patterned d S f' gaps' := by
  obtain ⟨first, rest, h⟩ := h
  refine ⟨first, rest, fun x hx => ?_⟩
  rw [hf x hx, hgaps x hx]
  exact h x hx

/-- A part of something has a pattern of its own. -/
theorem Patterned.of_part {β : Type} {T : β → Prop} (h : Patterned d S f gaps) (part : β → α)
    (hpart : ∀ y, T y → S (part y)) :
    Patterned d T (fun y => f (part y)) fun y => gaps (part y) := by
  obtain ⟨first, rest, h⟩ := h
  exact ⟨first, rest, fun y hy => h (part y) (hpart y hy)⟩

theorem Patterned.append (h : Patterned d S f gaps) (h' : Patterned d S f' gaps') :
    Patterned d S (fun x => f x ++ f' x) fun x => gaps x ++ gaps' x := by
  obtain ⟨first, rest, h⟩ := h
  obtain ⟨first', rest', h'⟩ := h'
  obtain ⟨first₂, rest₂, hrest₂, happend⟩ := exists_filled_append first rest first' rest'
  refine ⟨first₂, rest₂, fun x hx => ?_⟩
  obtain ⟨hlength, htext⟩ := h x hx
  obtain ⟨hlength', htext'⟩ := h' x hx
  constructor
  · rw [hrest₂, List.length_append, hlength, hlength']
  · rw [textOf_append, htext, htext', List.map_append, happend]
    rw [List.length_map, hlength]

theorem Patterned.behind (ps : List Piece) (h : Patterned d S f gaps) :
    Patterned d S (fun x => ps ++ f x) gaps := (patterned_const ps).append h

theorem Patterned.before (h : Patterned d S f gaps) (ps : List Piece) :
    Patterned d S (fun x => f x ++ ps) gaps :=
  (h.append (patterned_const ps)).congr (fun _ _ => rfl) fun _ _ => (List.append_nil _).symm

/-- What stands behind each of several gaps with a separator between them. -/
def separators (separator : String) : Nat → List String
  | 0 => []
  | 1 => [""]
  | n + 2 => separator :: separators separator (n + 1)

theorem length_separators (separator : String) (n : Nat) :
    (separators separator n).length = n := by
  fun_induction separators separator n with
  | case1 => rfl
  | case2 => rfl
  | case3 n ih => rw [List.length_cons, ih]

theorem textOf_separated_eq_filled (separator : String) (pss : List (List Piece)) :
    textOf d .prepared (separated separator pss)
      = filled "" (separators separator pss.length) (pss.map (textOf d .prepared)) := by
  induction pss with
  | nil => rfl
  | cons ps pss ih =>
    cases pss with
    | nil =>
      show textOf d .prepared ps = filled "" [""] [textOf d .prepared ps]
      rw [filled_cons, filled_nil, String.append_empty, String.empty_append]
    | cons qs pss =>
      show textOf d .prepared (ps ++ .sql separator :: separated separator (qs :: pss))
        = filled "" (separator :: separators separator (qs :: pss).length)
            (textOf d .prepared ps :: (qs :: pss).map (textOf d .prepared))
      rw [textOf_append, textOf_cons, ih, filled_cons, String.empty_append, append_filled,
        String.append_empty]
      rfl

theorem patterned_separated (separator : String) (n : Nat) (hn : ∀ x, S x → (gaps x).length = n) :
    Patterned d S (fun x => separated separator (gaps x)) gaps := by
  refine ⟨"", separators separator n, fun x hx => ⟨?_, ?_⟩⟩
  · rw [length_separators, hn x hx]
  · rw [textOf_separated_eq_filled, hn x hx]

end Patterned

/-! ### Clauses -/

section Clauses

variable {d : Dialect}

theorem JoinPart.SameShape.length_conditions {p q : JoinPart} (h : p.SameShape q) :
    q.conditions.length = p.conditions.length := by
  have hconstraint := h.constraint
  rw [conditions, conditions, List.length_append, List.length_append, List.length_map,
    List.length_map, h.pairs]
  cases hp : p.constraint <;> cases hq : q.constraint <;> simp_all

theorem hasConditions_eq_false_iff (p : JoinPart) :
    p.hasConditions = false ↔ p.conditions = [] := by
  rw [JoinPart.hasConditions, JoinPart.conditions]
  cases p.pairs <;> cases p.constraint <;> simp

theorem JoinPart.SameShape.hasConditions_eq {p q : JoinPart} (h : p.SameShape q) :
    q.hasConditions = p.hasConditions := by
  rw [Bool.eq_iff_iff, ← not_iff_not, Bool.not_eq_true, Bool.not_eq_true,
    hasConditions_eq_false_iff, hasConditions_eq_false_iff, ← List.length_eq_zero_iff,
    ← List.length_eq_zero_iff, h.length_conditions]

theorem patterned_conditionPieces (p : JoinPart) :
    Patterned d p.SameShape JoinPart.conditionPieces JoinPart.conditions :=
  patterned_separated " AND " p.conditions.length fun _ hq => hq.length_conditions

/-- A part has its conditions behind `ON`, if it has any. -/
theorem patterned_partPieces (p : JoinPart) :
    Patterned d p.SameShape JoinPart.pieces JoinPart.conditions := by
  cases hp : p.hasConditions with
  | true =>
    refine ((patterned_conditionPieces p).behind [.sql " ", .sql p.kind.sql, .sql " ",
      .name p.table.name, .sql " ON "]).congr (fun q hq => ?_) fun _ _ => rfl
    rw [JoinPart.pieces, hq.hasConditions_eq, hp, hq.kind, hq.table]
    rfl
  | false =>
    refine (patterned_const [.sql " ", .sql p.kind.sql, .sql " ", .name p.table.name]).congr
      (fun q hq => ?_) fun q hq => ?_
    · rw [JoinPart.pieces, hq.hasConditions_eq, hp, hq.kind, hq.table]
      rfl
    · rw [← hasConditions_eq_false_iff, hq.hasConditions_eq, hp]

theorem patterned_parts (parts : List JoinPart) :
    Patterned d (List.Forall₂ JoinPart.SameShape parts) (fun qs => qs.flatMap JoinPart.pieces)
      fun qs => qs.flatMap JoinPart.conditions := by
  induction parts with
  | nil =>
    refine (patterned_const []).congr (fun qs hqs => ?_) fun qs hqs => ?_
    · cases hqs
      rfl
    · cases hqs
      rfl
  | cons p parts ih =>
    have hp : Patterned d (List.Forall₂ JoinPart.SameShape (p :: parts))
        (fun qs : List JoinPart => (qs.headD p).pieces)
        fun qs : List JoinPart => (qs.headD p).conditions := by
      refine (patterned_partPieces p).of_part (fun qs : List JoinPart => qs.headD p)
        fun qs hqs => ?_
      cases hqs with
      | cons hq _ => exact hq
    have hparts := ih.of_part (T := List.Forall₂ JoinPart.SameShape (p :: parts)) List.tail
      fun qs hqs => by
        cases hqs with
        | cons _ hqs => exact hqs
    refine (hp.append hparts).congr (fun qs hqs => ?_) fun qs hqs => ?_
    · cases hqs
      rfl
    · cases hqs
      rfl

/-- A join has all its conditions behind `ON`. -/
theorem patterned_joinPieces (j : Join) :
    Patterned d j.SameShape Join.pieces Join.conditions := by
  have hparts : Patterned d j.SameShape (fun k => k.parts.flatMap JoinPart.pieces)
      Join.conditions := (patterned_parts j.parts).of_part Join.parts fun _ hk => hk.parts
  refine (hparts.behind [.name j.lead.name]).congr (fun k hk => ?_) fun _ _ => rfl
  rw [Join.pieces, hk.lead]
  rfl

theorem length_flatMap_conditions {ps qs : List JoinPart}
    (h : List.Forall₂ JoinPart.SameShape ps qs) :
    (qs.flatMap JoinPart.conditions).length = (ps.flatMap JoinPart.conditions).length := by
  induction h with
  | nil => rfl
  | cons hp _ ih =>
    rw [List.flatMap_cons, List.flatMap_cons, List.length_append, List.length_append, ih,
      hp.length_conditions]

theorem Join.SameShape.length_conditions {j k : Join} (h : j.SameShape k) :
    k.conditions.length = j.conditions.length := length_flatMap_conditions h.parts

theorem flatten_joinConditions (parts : List JoinPart) :
    separated " AND " ((parts.filter JoinPart.hasConditions).map JoinPart.conditionPieces)
        = separated " AND " (parts.flatMap JoinPart.conditions) ∧
      ((parts.filter JoinPart.hasConditions).map JoinPart.conditionPieces = [] ↔
        parts.flatMap JoinPart.conditions = []) := by
  induction parts with
  | nil => exact ⟨rfl, Iff.rfl⟩
  | cons p parts ih =>
    cases hp : p.hasConditions with
    | false =>
      rw [List.filter_cons_of_neg (by rw [hp]; decide), List.flatMap_cons,
        (hasConditions_eq_false_iff p).1 hp]
      exact ih
    | true =>
      have hne : p.conditions ≠ [] := by
        intro hnil
        rw [(hasConditions_eq_false_iff p).2 hnil] at hp
        cases hp
      rw [List.filter_cons_of_pos hp, List.flatMap_cons, List.map_cons]
      refine ⟨?_, by simp [hne]⟩
      by_cases hnil : parts.flatMap JoinPart.conditions = []
      · rw [ih.2.2 hnil, hnil, List.append_nil]
        rfl
      · rw [separated_append " AND " hne hnil, ← ih.1]
        obtain ⟨c, cs, hcs⟩ := List.exists_cons_of_ne_nil fun h => hnil (ih.2.1 h)
        rw [hcs]
        rfl

/-- The condition on the rows, behind other conditions. -/
def furtherPieces : Option Expr → List Piece
  | none => []
  | some e => .sql " AND " :: conjunctPieces e

/-- The conditions of all parts are put together as those of one part are. -/
theorem joinedWherePieces_eq (j : Join) (filter : Option Expr) : joinedWherePieces j filter =
    if j.conditions = [] then wherePieces filter
    else .sql " WHERE " :: separated " AND " j.conditions ++ furtherPieces filter := by
  obtain ⟨hseparated, hnil⟩ := flatten_joinConditions j.parts
  rw [joinedWherePieces.eq_def]
  cases hcs : joinConditions j with
  | nil =>
    have hnone : j.conditions = [] := hnil.1 hcs
    rw [if_pos hnone]
  | cons c cs =>
    have hne : j.conditions ≠ [] := by
      intro h
      have hempty : joinConditions j = [] := hnil.2 h
      rw [hcs] at hempty
      cases hempty
    have hflat : separated " AND " (c :: cs) = separated " AND " j.conditions := hcs ▸ hseparated
    rw [if_neg hne, ← hflat]
    cases filter <;> rfl

/-- Behind `WHERE` there are the conditions of all parts. -/
theorem patterned_joinedWherePieces (j : Join) (filter : Option Expr) :
    Patterned d j.SameShape (fun k => joinedWherePieces k filter) Join.conditions := by
  have hlength : ∀ k, j.SameShape k → k.conditions.length = j.conditions.length :=
    fun _ hk => hk.length_conditions
  have hnil : ∀ k, j.SameShape k → (k.conditions = [] ↔ j.conditions = []) := by
    intro k hk
    rw [← List.length_eq_zero_iff, ← List.length_eq_zero_iff, hlength k hk]
  by_cases h : j.conditions = []
  · refine (patterned_const (wherePieces filter)).congr (fun k hk => ?_) fun k hk => ?_
    · rw [joinedWherePieces_eq, if_pos ((hnil k hk).2 h)]
    · exact (hnil k hk).2 h
  · refine (((patterned_separated " AND " _ hlength).behind [.sql " WHERE "]).before
      (furtherPieces filter)).congr (fun k hk => ?_) fun _ _ => rfl
    rw [joinedWherePieces_eq, if_neg fun hk' => h ((hnil k hk).1 hk')]
    rfl

theorem patterned_mergeConditions (p : JoinPart) :
    Patterned d p.SameShape mergeConditions JoinPart.conditions := by
  cases hp : p.hasConditions with
  | true =>
    refine (patterned_conditionPieces p).congr (fun q hq => ?_) fun _ _ => rfl
    rw [mergeConditions, hq.hasConditions_eq, hp, if_pos rfl]
  | false =>
    refine (patterned_const [.sql "TRUE"]).congr (fun q hq => ?_) fun q hq => ?_
    · rw [mergeConditions, hq.hasConditions_eq, hp]
      rfl
    · rw [← hasConditions_eq_false_iff, hq.hasConditions_eq, hp]

end Clauses

/-! ### Statements -/

section Statements

variable {d : Dialect} {j k : Join} {as : List Assignment} {limit : Option Nat}

theorem map_table_of_sameShape {ps qs : List JoinPart}
    (h : List.Forall₂ JoinPart.SameShape ps qs) :
    qs.map JoinPart.table = ps.map JoinPart.table := by
  induction h with
  | nil => rfl
  | cons hp _ ih => rw [List.map_cons, List.map_cons, ih, hp.table]

theorem Join.SameShape.tables_eq (h : j.SameShape k) : k.tables = j.tables := by
  rw [tables, tables, h.lead, map_table_of_sameShape h.parts]

/-- The checks of a join look at nothing but its tables. -/
theorem Join.SameShape.checks_eq (h : j.SameShape k) :
    requireJoined k as = requireJoined j as ∧ updatedTable d k as = updatedTable d j as := by
  have htable : ∀ name, k.table? name = j.table? name := by
    intro name
    rw [table?, table?, h.tables_eq]
  have hrequired : requireJoined k as = requireJoined j as := by
    simp only [requireJoined, foreignColumn?, htable]
  have hcommon : commonTable? k as = commonTable? j as := by
    cases as with
    | nil => rfl
    | cons a as => rw [commonTable?, commonTable?, htable]
  refine ⟨hrequired, ?_⟩
  rw [updatedTable, updatedTable, hrequired, hcommon]

/-- A planned statement on a join has a place for each condition. Joins of the same shape are planned
alike, and differ in these places only. -/
theorem conditions_planJoin {form : Form} (filter : Option Expr)
    (h : JoinPlanned d j as limit form) : ∃ first rest, ∀ k, j.SameShape k →
      ∃ form', planJoin d k as limit = .ok form' ∧ rest.length = k.conditions.length ∧
        textOf d .prepared (Plan.pieces ⟨form', as, filter⟩)
          = filled first rest (k.conditions.map (textOf d .prepared)) := by
  cases h with
  | list hs hlimit hjoined =>
    obtain ⟨first, rest, hpattern⟩ := ((((patterned_joinPieces (d := d) j).behind
      [.sql "UPDATE "]).before (setPieces true as)).before (wherePieces filter))
    refine ⟨first, rest, fun k hk => ⟨.list k, ?_, hpattern k hk⟩⟩
    exact (JoinPlanned.list hs hlimit (hk.checks_eq (d := d).1.trans hjoined)).planJoin_eq
  | @«from» qualified top t hs hlimit ht =>
    obtain ⟨first, rest, hpattern⟩ := (patterned_joinedWherePieces (d := d) j filter).behind
      (.sql "UPDATE " :: topPieces limit ++ .name t.name :: setPieces qualified as
        ++ fromPieces t j)
    refine ⟨first, rest, fun k hk => ⟨.from t k qualified limit, ?_, ?_⟩⟩
    · exact (JoinPlanned.from hs hlimit (hk.checks_eq.2.trans ht)).planJoin_eq
    · have hfrom : fromPieces t k = fromPieces t j := by
        rw [fromPieces, fromPieces, otherTables, otherTables, hk.tables_eq]
      show rest.length = _ ∧ textOf d .prepared (.sql "UPDATE " :: topPieces limit
        ++ .name t.name :: setPieces qualified as ++ fromPieces t k ++ joinedWherePieces k filter)
          = _
      rw [hfrom]
      exact hpattern k hk
  | @merge t part hs hlimit ht hp =>
    obtain ⟨first, rest, hpattern⟩ := (((patterned_mergeConditions (d := d) part).behind
      [.sql "MERGE INTO ", .name t.name, .sql " USING ", .name (mergeSource t j part).name,
        .sql " ON "]).before (.sql " WHEN MATCHED THEN UPDATE" :: setPieces true as)).before
      (wherePieces filter)
    refine ⟨first, rest, fun k hk => ?_⟩
    have hparts := hk.parts
    rw [hp] at hparts
    obtain ⟨q, hq, hkq⟩ : ∃ q, part.SameShape q ∧ k.parts = [q] := by
      cases hks : k.parts with
      | nil => rw [hks] at hparts; cases hparts
      | cons q qs =>
        rw [hks] at hparts
        cases hparts with
        | cons hq hqs =>
          cases hqs
          exact ⟨q, hq, rfl⟩
    have hsource : mergeSource t k q = mergeSource t j part := by
      rw [mergeSource, mergeSource, hk.lead, hq.table]
    have hconditions : k.conditions = q.conditions := by
      rw [Join.conditions, hkq, List.flatMap_singleton]
    refine ⟨.merge t (mergeSource t k q) q, ?_, ?_⟩
    · exact (JoinPlanned.merge hs hlimit (hk.checks_eq.2.trans ht) hkq).planJoin_eq
    · rw [hsource, hconditions]
      exact hpattern q hq
  | @view t hs ht hb =>
    obtain ⟨first, rest, hpattern⟩ := (((((patterned_joinPieces (d := d) j).behind
      [.sql " FROM "]).behind (.sql "UPDATE (SELECT "
        :: separated ", " ((aliased 0 as).map fun c => selectPieces c.1 c.2))).before
      (wherePieces filter)).before (.sql ") x SET "
        :: separated ", " ((aliased 0 as).map fun c => viewSetPieces c.1 c.2))).before
      (rownumClause limit)
    refine ⟨first, rest, fun k hk => ⟨.view k limit, ?_, hpattern k hk⟩⟩
    exact (JoinPlanned.view hs (hk.checks_eq.2.trans ht) hb).planJoin_eq

end Statements

end SqlUpdate
