import SqlUpdate.Proofs.Statement.Forms
/-!
# The words of expressions, clauses and statements

An expression consists of names, arguments, raw fragments and a few fixed texts. So do most clauses
of a statement; a join adds literals, and a limit adds a number.

* `fixedTexts` — the fixed texts of expressions and of all clauses without the keywords that a table
  follows.
* `Wording` — what names, arguments, raw fragments and these texts have in common.
* `Wording.pieces`, `Wording.setPieces`, ... — all pieces of expressions and clauses have it too.
* `StatementWording`, `StatementWording.planPieces` — the same for whole statements.
-/

namespace SqlUpdate

/-- The fixed texts of expressions and of the clauses that they stand in. -/
def fixedTexts : List String :=
  [" ", ".", "(", ")", ", ", " = ", "=", "!=", "<", "<=", ">", ">=", "LIKE", "NOT LIKE", "AND",
    "OR", "+", "-", "*", "/", "NOT ", " IS NULL", " IS NOT NULL", " IN (", " NOT IN (",
    " BETWEEN ", " NOT BETWEEN ", " AND ", "TOP(", ") ", " SET ", " WHERE ", " ON ", "TRUE",
    " LIMIT ", "ROWNUM <= ", ") x SET ", "x."]

/-- A property of names, arguments, raw fragments and fixed texts. -/
structure Wording (P : Piece → Prop) : Prop where
  name : ∀ s, P (.name s)
  argument : ∀ a, P (.argument a)
  raw : ∀ s, P (.raw s)
  text : ∀ s ∈ fixedTexts, P (.sql s)

open List (forall_mem_append forall_mem_cons forall_mem_singleton)

namespace Wording

variable {P : Piece → Prop} {ps : List Piece}

/-- A fixed text by itself. -/
theorem lone (h : Wording P) {s : String} (hs : s ∈ fixedTexts) : ∀ p ∈ [Piece.sql s], P p :=
  forall_mem_singleton.2 (h.text s hs)

theorem separated (h : Wording P) {separator : String} (hs : separator ∈ fixedTexts)
    {pss : List (List Piece)} (hpss : ∀ ps ∈ pss, ∀ p ∈ ps, P p) :
    ∀ p ∈ SqlUpdate.separated separator pss, P p := by
  induction pss with
  | nil => exact nofun
  | cons ps pss ih =>
    rw [forall_mem_cons] at hpss
    cases pss with
    | nil => exact hpss.1
    | cons qs pss =>
      rw [SqlUpdate.separated, forall_mem_append, forall_mem_cons]
      exact ⟨hpss.1, h.text _ hs, ih hpss.2⟩

theorem parenthesized (h : Wording P) (hps : ∀ p ∈ ps, P p) :
    ∀ p ∈ SqlUpdate.parenthesized ps, P p := by
  rw [SqlUpdate.parenthesized, forall_mem_cons, forall_mem_append]
  exact ⟨h.text _ (by decide), hps, h.lone (by decide)⟩

theorem parenthesizedIf (h : Wording P) (needed : Bool) (hps : ∀ p ∈ ps, P p) :
    ∀ p ∈ SqlUpdate.parenthesizedIf needed ps, P p := by
  cases needed with
  | true => exact h.parenthesized hps
  | false => exact hps

theorem qualified (h : Wording P) (c : Column) : ∀ p ∈ Piece.qualified c, P p := by
  rw [Piece.qualified, forall_mem_cons, forall_mem_cons, forall_mem_singleton]
  exact ⟨h.name _, h.text _ (by decide), h.name _⟩

/-! ### Expressions -/

mutual
/-- Expressions consist of names, arguments, raw fragments and fixed texts. -/
theorem pieces (h : Wording P) : (e : Expr) → ∀ p ∈ e.pieces, P p
  | .column c => h.qualified c
  | .argument a => forall_mem_singleton.2 (h.argument a)
  | .raw s => forall_mem_singleton.2 (h.raw s)
  | .binary op e f => by
    have hop : op.sql ∈ fixedTexts := by cases op <;> decide
    have hspaced : ∀ p ∈ [Piece.sql " ", .sql op.sql, .sql " "], P p := by
      rw [forall_mem_cons, forall_mem_cons]
      exact ⟨h.text _ (by decide), h.text _ hop, h.lone (by decide)⟩
    rw [Expr.pieces, forall_mem_append, forall_mem_append]
    exact ⟨⟨h.parenthesizedIf _ (pieces h e), hspaced⟩, h.parenthesizedIf _ (pieces h f)⟩
  | .not e => by
    rw [Expr.pieces, forall_mem_cons]
    exact ⟨h.text _ (by decide), h.parenthesizedIf _ (pieces h e)⟩
  | .isNull negated e => by
    have hwords : (if negated then " IS NOT NULL" else " IS NULL") ∈ fixedTexts := by
      cases negated <;> decide
    rw [Expr.pieces, forall_mem_append]
    exact ⟨pieces h e, h.lone hwords⟩
  | .inList negated e items => by
    have hwords : (if negated then " NOT IN (" else " IN (") ∈ fixedTexts := by
      cases negated <;> decide
    rw [Expr.pieces, forall_mem_append, forall_mem_append, forall_mem_append]
    exact ⟨⟨⟨pieces h e, h.lone hwords⟩, h.separated (by decide) (itemPieces h items)⟩,
      h.lone (by decide)⟩
  | .between negated e low high => by
    have hwords : (if negated then " NOT BETWEEN " else " BETWEEN ") ∈ fixedTexts := by
      cases negated <;> decide
    rw [Expr.pieces, forall_mem_append, forall_mem_append, forall_mem_append, forall_mem_append]
    exact ⟨⟨⟨⟨pieces h e, h.lone hwords⟩, pieces h low⟩, h.lone (by decide)⟩, pieces h high⟩
  | .paren e => by
    rw [Expr.pieces]
    exact h.parenthesized (pieces h e)

theorem itemPieces (h : Wording P) : (es : List Expr) → ∀ ps ∈ Expr.itemPieces es, ∀ p ∈ ps, P p
  | [] => nofun
  | e :: es => forall_mem_cons.2 ⟨pieces h e, itemPieces h es⟩
end

/-! ### Clauses -/

theorem valuePieces (h : Wording P) (a : Assignment) : ∀ p ∈ a.valuePieces, P p := by
  obtain ⟨c, v | e⟩ := a
  · exact forall_mem_singleton.2 (h.argument _)
  · exact h.pieces e

theorem setPieces (h : Wording P) (qualified : Bool) (as : List Assignment) :
    ∀ p ∈ SqlUpdate.setPieces qualified as, P p := by
  rw [SqlUpdate.setPieces, forall_mem_cons]
  refine ⟨h.text _ (by decide), h.separated (by decide) (List.forall_mem_map.2 fun a _ => ?_)⟩
  rw [forall_mem_append, forall_mem_cons]
  refine ⟨?_, h.text _ (by decide), h.valuePieces a⟩
  cases qualified with
  | true => exact h.qualified a.column
  | false => exact forall_mem_singleton.2 (h.name _)

theorem wherePieces (h : Wording P) (filter : Option Expr) :
    ∀ p ∈ SqlUpdate.wherePieces filter, P p := by
  cases filter with
  | none => exact nofun
  | some e => exact forall_mem_cons.2 ⟨h.text _ (by decide), h.pieces e⟩

theorem topPieces (h : Wording P) (hnumber : ∀ n, P (numberPiece n)) (n : Option Nat) :
    ∀ p ∈ SqlUpdate.topPieces n, P p := by
  cases n with
  | none => exact nofun
  | some n =>
    rw [SqlUpdate.topPieces, forall_mem_cons, forall_mem_cons]
    exact ⟨h.text _ (by decide), hnumber n, h.lone (by decide)⟩

theorem fromPieces (h : Wording P) (hfrom : P (.sql " FROM ")) (t : Table) (j : Join) :
    ∀ p ∈ SqlUpdate.fromPieces t j, P p := by
  unfold SqlUpdate.fromPieces
  split
  · exact nofun
  · rw [forall_mem_cons]
    exact ⟨hfrom, h.separated (by decide)
      (List.forall_mem_map.2 fun u _ => forall_mem_singleton.2 (h.name u.name))⟩

/-- Constraints have literals in place of arguments. -/
theorem constraintPieces (h : Wording P) (hliteral : ∀ v, P (.literal v)) (e : Expr) :
    ∀ p ∈ SqlUpdate.constraintPieces e, P p := by
  refine h.parenthesized (List.forall_mem_map.2 fun p hp => ?_)
  cases p with
  | argument a => exact hliteral a.value
  | literal v => exact hliteral v
  | sql s => exact h.pieces e _ hp
  | name s => exact h.name s
  | raw s => exact h.raw s

theorem conditionPieces (h : Wording P) (hliteral : ∀ v, P (.literal v)) (part : JoinPart) :
    ∀ p ∈ part.conditionPieces, P p := by
  refine h.separated (by decide) ?_
  rw [JoinPart.conditions, forall_mem_append, List.forall_mem_map]
  constructor
  · intro pair _
    rw [pairPieces, forall_mem_append, forall_mem_cons]
    exact ⟨h.qualified pair.1, h.text _ (by decide), h.qualified pair.2⟩
  · intro ps hps
    obtain ⟨e, -, rfl⟩ := Option.map_eq_some_iff.1 (Option.mem_toList.1 hps)
    exact h.constraintPieces hliteral e

theorem joinedWherePieces (h : Wording P) (hliteral : ∀ v, P (.literal v)) (j : Join)
    (filter : Option Expr) : ∀ p ∈ SqlUpdate.joinedWherePieces j filter, P p := by
  have hconditions : ∀ ps ∈ joinConditions j, ∀ p ∈ ps, P p :=
    List.forall_mem_map.2 fun part _ => h.conditionPieces hliteral part
  unfold SqlUpdate.joinedWherePieces
  split
  · exact h.wherePieces filter
  · rw [forall_mem_append, forall_mem_cons]
    refine ⟨⟨h.text _ (by decide), h.separated (by decide) hconditions⟩, ?_⟩
    cases filter with
    | none => exact nofun
    | some e => exact forall_mem_cons.2 ⟨h.text _ (by decide), h.parenthesizedIf _ (h.pieces e)⟩

theorem mergeConditions (h : Wording P) (hliteral : ∀ v, P (.literal v)) (part : JoinPart) :
    ∀ p ∈ SqlUpdate.mergeConditions part, P p := by
  unfold SqlUpdate.mergeConditions
  split
  · exact h.conditionPieces hliteral part
  · exact h.lone (by decide)

theorem rownumPieces (h : Wording P) (hnumber : ∀ n, P (numberPiece n)) (n : Nat) :
    ∀ p ∈ SqlUpdate.rownumPieces n, P p :=
  forall_mem_cons.2 ⟨h.text _ (by decide), forall_mem_singleton.2 (hnumber n)⟩

theorem rownumClause (h : Wording P) (hnumber : ∀ n, P (numberPiece n)) (n : Option Nat) :
    ∀ p ∈ SqlUpdate.rownumClause n, P p := by
  cases n with
  | none => exact nofun
  | some n => exact forall_mem_cons.2 ⟨h.text _ (by decide), h.rownumPieces hnumber n⟩

theorem selectPieces (h : Wording P) (hcolumn : ∀ n, P (aliasPiece n)) (n : Nat) (a : Assignment) :
    ∀ p ∈ SqlUpdate.selectPieces n a, P p := by
  have hspace : P (.sql " ") := h.text _ (by decide)
  have halias (n : Nat) : ∀ p ∈ [.sql " ", aliasPiece n], P p :=
    forall_mem_cons.2 ⟨hspace, forall_mem_singleton.2 (hcolumn n)⟩
  rw [SqlUpdate.selectPieces, forall_mem_append, forall_mem_append]
  refine ⟨⟨h.qualified a.column, halias n⟩, ?_⟩
  split
  · exact nofun
  · rename_i e _
    exact forall_mem_append.2 ⟨forall_mem_cons.2 ⟨h.text _ (by decide), h.pieces e⟩,
      halias (n + 1)⟩

theorem viewSetPieces (h : Wording P) (hcolumn : ∀ n, P (aliasPiece n)) (n : Nat) (a : Assignment) :
    ∀ p ∈ SqlUpdate.viewSetPieces n a, P p := by
  have hx : P (.sql "x.") := h.text _ (by decide)
  rw [SqlUpdate.viewSetPieces, forall_mem_append, forall_mem_cons, forall_mem_cons,
    forall_mem_singleton]
  refine ⟨⟨hx, hcolumn n, h.text _ (by decide)⟩, ?_⟩
  split
  · exact h.valuePieces a
  · exact forall_mem_cons.2 ⟨hx, forall_mem_singleton.2 (hcolumn (n + 1))⟩

end Wording

/-! ### Statements -/

/-- The fixed texts that have a keyword in front of a table. -/
def tableTexts : List String :=
  ["UPDATE ", " FROM ", "INNER JOIN", "LEFT JOIN", "RIGHT JOIN", "FULL JOIN", "CROSS JOIN",
    "MERGE INTO ", " USING ", " WHEN MATCHED THEN UPDATE", "UPDATE (SELECT "]

/-- A property of everything that a statement is made of. -/
structure StatementWording (P : Piece → Prop) : Prop extends Wording P where
  literal : ∀ v, P (.literal v)
  keyword : ∀ s ∈ tableTexts, P (.sql s)
  number : ∀ n, P (numberPiece n)
  column : ∀ n, P (aliasPiece n)

namespace StatementWording

variable {P : Piece → Prop}

theorem partPieces (h : StatementWording P) (part : JoinPart) : ∀ p ∈ part.pieces, P p := by
  have hkind : part.kind.sql ∈ tableTexts := by cases part.kind <;> decide
  rw [JoinPart.pieces, forall_mem_append, forall_mem_cons, forall_mem_cons, forall_mem_cons,
    forall_mem_singleton]
  refine ⟨⟨h.text _ (by decide), h.keyword _ hkind, h.text _ (by decide), h.name _⟩, ?_⟩
  split
  · exact forall_mem_cons.2 ⟨h.text _ (by decide), h.conditionPieces h.literal part⟩
  · exact nofun

theorem joinPieces (h : StatementWording P) (j : Join) : ∀ p ∈ j.pieces, P p := by
  refine forall_mem_cons.2 ⟨h.name _, fun p hp => ?_⟩
  obtain ⟨part, -, hp⟩ := List.mem_flatMap.1 hp
  exact h.partPieces part p hp

theorem tablePieces (h : StatementWording P) (t : Table) (limit : Option (LimitStyle × Nat))
    (as : List Assignment) (filter : Option Expr) :
    ∀ p ∈ SqlUpdate.tablePieces t limit as filter, P p := by
  have hupdate : P (.sql "UPDATE ") := h.keyword _ (by decide)
  have hset : ∀ p ∈ .name t.name :: SqlUpdate.setPieces false as, P p :=
    forall_mem_cons.2 ⟨h.name _, h.setPieces false as⟩
  match limit with
  | none => exact forall_mem_append.2 ⟨forall_mem_cons.2 ⟨hupdate, hset⟩, h.wherePieces filter⟩
  | some (.suffix, n) =>
    refine forall_mem_append.2 ⟨forall_mem_append.2 ⟨forall_mem_cons.2 ⟨hupdate, hset⟩,
      h.wherePieces filter⟩, forall_mem_cons.2 ⟨h.text _ (by decide), ?_⟩⟩
    exact forall_mem_singleton.2 (h.number n)
  | some (.top, n) =>
    exact forall_mem_append.2 ⟨forall_mem_append.2 ⟨forall_mem_cons.2 ⟨hupdate,
      h.topPieces h.number (some n)⟩, hset⟩, h.wherePieces filter⟩
  | some (.rownum, n) =>
    refine forall_mem_append.2 ⟨forall_mem_cons.2 ⟨hupdate, hset⟩, ?_⟩
    cases filter with
    | none => exact h.rownumClause h.number (some n)
    | some e =>
      exact forall_mem_append.2 ⟨forall_mem_cons.2 ⟨h.text _ (by decide),
        h.parenthesizedIf _ (h.pieces e)⟩,
        forall_mem_cons.2 ⟨h.text _ (by decide), h.rownumPieces h.number n⟩⟩

/-- Statements are made of names, arguments, raw fragments, literals, numbers and fixed texts. -/
theorem planPieces (h : StatementWording P) (plan : Plan) : ∀ p ∈ plan.pieces, P p := by
  obtain ⟨form, as, filter⟩ := plan
  have hupdate : P (.sql "UPDATE ") := h.keyword _ (by decide)
  have hwhere := h.wherePieces filter
  cases form with
  | table t limit => exact h.tablePieces t limit as filter
  | list j =>
    exact forall_mem_append.2 ⟨forall_mem_append.2 ⟨forall_mem_cons.2 ⟨hupdate, h.joinPieces j⟩,
      h.setPieces true as⟩, hwhere⟩
  | «from» t j qualified top =>
    exact forall_mem_append.2 ⟨forall_mem_append.2 ⟨forall_mem_append.2 ⟨forall_mem_cons.2
      ⟨hupdate, h.topPieces h.number top⟩, forall_mem_cons.2 ⟨h.name _, h.setPieces qualified as⟩⟩,
      h.fromPieces (h.keyword _ (by decide)) t j⟩,
      h.joinedWherePieces h.literal j filter⟩
  | merge t source part =>
    have hhead : ∀ p ∈ [.sql "MERGE INTO ", .name t.name, .sql " USING ", .name source.name,
        .sql " ON "], P p := by
      rw [forall_mem_cons, forall_mem_cons, forall_mem_cons, forall_mem_cons, forall_mem_singleton]
      exact ⟨h.keyword _ (by decide), h.name _, h.keyword _ (by decide), h.name _,
        h.text _ (by decide)⟩
    exact forall_mem_append.2 ⟨forall_mem_append.2 ⟨forall_mem_append.2 ⟨hhead,
        h.mergeConditions h.literal part⟩,
      forall_mem_cons.2 ⟨h.keyword _ (by decide), h.setPieces true as⟩⟩, hwhere⟩
  | view j limit =>
    have hselect : ∀ p ∈ SqlUpdate.separated ", " ((aliased 0 as).map fun c =>
        SqlUpdate.selectPieces c.1 c.2), P p :=
      h.separated (by decide) (List.forall_mem_map.2 fun c _ => h.selectPieces h.column c.1 c.2)
    have hset : ∀ p ∈ SqlUpdate.separated ", " ((aliased 0 as).map fun c =>
        SqlUpdate.viewSetPieces c.1 c.2), P p :=
      h.separated (by decide) (List.forall_mem_map.2 fun c _ => h.viewSetPieces h.column c.1 c.2)
    exact forall_mem_append.2 ⟨forall_mem_append.2 ⟨forall_mem_append.2 ⟨forall_mem_append.2
      ⟨forall_mem_cons.2 ⟨h.keyword _ (by decide), hselect⟩,
        forall_mem_cons.2 ⟨h.keyword _ (by decide), h.joinPieces j⟩⟩, hwhere⟩,
      forall_mem_cons.2 ⟨h.text _ (by decide), hset⟩⟩, h.rownumClause h.number limit⟩

end StatementWording

end SqlUpdate
