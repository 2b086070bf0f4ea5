import SqlUpdate.Proofs.Lexical.Clauses
import SqlUpdate.Proofs.Reading.Clauses
import SqlUpdate.Proofs.Reading.Expressions
/-!
# Pieces without conditions

Only `ON` and `WHERE` open a condition. What stands between the conditions of a statement holds no
such word, and neither do expressions.

* `Silent` — pieces that open no condition.
* `silent_pieces` — expressions open none.
* `silent_setPieces`, `silent_fromPieces`, `silent_selectPieces`, ... — other clauses open none.
-/

namespace SqlUpdate

/-- Whether pieces open no condition. -/
def Silent (r : Reading) (ps : List Piece) : Prop := ∀ p ∈ ps, Quiet (p.tokens r)

section Expressions

variable {r : Reading} {p : Piece} {ps qs : List Piece}

theorem silent_nil : Silent r [] := nofun

theorem silent_cons (hp : Quiet (p.tokens r)) (hps : Silent r ps) : Silent r (p :: ps) := by
  intro q hq
  rcases List.mem_cons.1 hq with rfl | hq
  · exact hp
  · exact hps q hq

/-- A fixed text can be tested for conditions on its own. -/
theorem silent_sql {s : String} (h : Quiet (tokens (s.toList.map .bare))) (hps : Silent r ps) :
    Silent r (.sql s :: ps) := silent_cons h hps

theorem silent_append (hp : Silent r ps) (hq : Silent r qs) : Silent r (ps ++ qs) := by
  intro p hmem
  rcases List.mem_append.1 hmem with hmem | hmem
  · exact hp p hmem
  · exact hq p hmem

theorem Silent.quiet (h : Silent r ps) : Quiet (tokensOf r ps) := by
  intro t ht
  obtain ⟨p, hp, ht⟩ := List.mem_flatMap.1 ht
  exact h p hp t ht

theorem silent_separated {separator : String}
    (hs : Quiet (tokens (separator.toList.map .bare))) {pss : List (List Piece)}
    (h : ∀ ps ∈ pss, Silent r ps) : Silent r (separated separator pss) := by
  induction pss with
  | nil => exact silent_nil
  | cons ps pss ih =>
    cases pss with
    | nil => exact h ps List.mem_cons_self
    | cons qs pss =>
      exact silent_append (h ps List.mem_cons_self)
        (silent_sql hs (ih fun rs hrs => h rs (List.mem_cons_of_mem _ hrs)))

theorem silent_parenthesized (h : Silent r ps) : Silent r (parenthesized ps) := by
  exact silent_sql (by decide) (silent_append h (silent_sql (by decide) silent_nil))

theorem silent_parenthesizedIf (needed : Bool) (h : Silent r ps) :
    Silent r (parenthesizedIf needed ps) := by
  cases needed with
  | true => exact silent_parenthesized h
  | false => exact h

theorem quiet_literal {ts : List Token} {cs : List Char} (h : LiteralTokens ts cs) : Quiet ts := by
  have hunsigned {us : List Token} {ds : List Char} (hus : UnsignedTokens us ds) : Quiet us := by
    cases hus <;> simp [Quiet, Token.opensCondition]
  cases h with
  | null => simp [Quiet, Token.opensCondition]
  | word cs => simp [Quiet, Token.opensCondition]
  | positive hus => exact hunsigned hus
  | negative hus => exact List.forall_mem_cons.2 ⟨rfl, hunsigned hus⟩

theorem quiet_name (s : String) : Quiet ((Piece.name s).tokens r) := List.forall_mem_singleton.2 rfl

theorem quiet_argument (a : Argument) : Quiet ((Piece.argument a).tokens r) := by
  cases r with
  | prepared => exact List.forall_mem_singleton.2 rfl
  | inlined => exact quiet_literal (literalTokens_lexemes a.value)

theorem silent_qualified (c : Column) : Silent r (Piece.qualified c) := by
  exact silent_cons (quiet_name _)
    (silent_sql (by decide) (silent_cons (quiet_name _) silent_nil))

theorem silent_operator (op : BinaryOp) : Silent r [.sql " ", .sql op.sql, .sql " "] := by
  have hop : Quiet (tokens (op.sql.toList.map .bare)) := by cases op <;> decide
  exact silent_sql (by decide) (silent_sql hop (silent_sql (by decide) silent_nil))

mutual
/-- Expressions without raw fragments open no condition. -/
theorem silent_pieces : {e : Expr} → e.isRawFree = true → Silent r e.pieces
  | .column c, _ => silent_qualified c
  | .argument a, _ => silent_cons (quiet_argument a) silent_nil
  | .binary op e f, h => by
    rw [Expr.isRawFree, Bool.and_eq_true] at h
    rw [Expr.pieces]
    exact silent_append (silent_append (silent_parenthesizedIf _ (silent_pieces h.1))
      (silent_operator op)) (silent_parenthesizedIf _ (silent_pieces h.2))
  | .not e, h => by
    rw [Expr.isRawFree] at h
    rw [Expr.pieces]
    exact silent_sql (by decide) (silent_parenthesizedIf _ (silent_pieces h))
  | .isNull negated e, h => by
    rw [Expr.isRawFree] at h
    have hwords : Quiet (tokens
        ((if negated then " IS NOT NULL" else " IS NULL").toList.map .bare)) := by
      cases negated <;> decide
    rw [Expr.pieces]
    exact silent_append (silent_pieces h) (silent_sql hwords silent_nil)
  | .inList negated e items, h => by
    rw [Expr.isRawFree, Bool.and_eq_true] at h
    have hwords : Quiet (tokens ((if negated then " NOT IN (" else " IN (").toList.map .bare)) := by
      cases negated <;> decide
    rw [Expr.pieces]
    exact silent_append (silent_append (silent_append (silent_pieces h.1)
      (silent_sql hwords silent_nil)) (silent_separated (by decide) (silent_itemPieces h.2)))
      (silent_sql (by decide) silent_nil)
  | .between negated e low high, h => by
    rw [Expr.isRawFree, Bool.and_eq_true, Bool.and_eq_true] at h
    have hwords : Quiet (tokens
        ((if negated then " NOT BETWEEN " else " BETWEEN ").toList.map .bare)) := by
      cases negated <;> decide
    rw [Expr.pieces]
    exact silent_append (silent_append (silent_append (silent_append (silent_pieces h.1.1)
      (silent_sql hwords silent_nil)) (silent_pieces h.1.2)) (silent_sql (by decide) silent_nil))
      (silent_pieces h.2)
  | .paren e, h => by
    rw [Expr.isRawFree] at h
    rw [Expr.pieces]
    exact silent_parenthesized (silent_pieces h)

theorem silent_itemPieces : {es : List Expr} → Expr.areRawFree es = true →
    ∀ ps ∈ Expr.itemPieces es, Silent r ps
  | [], _ => nofun
  | e :: es, h => by
    rw [Expr.areRawFree, Bool.and_eq_true] at h
    rw [Expr.itemPieces]
    intro ps hps
    rcases List.mem_cons.1 hps with rfl | hps
    · exact silent_pieces h.1
    · exact silent_itemPieces h.2 ps hps
end

end Expressions

/-! ### Clauses -/

theorem quiet_numberPiece (n : Nat) : Quiet ((numberPiece n).tokens .prepared) := by
  rw [tokens_natural]
  exact List.forall_mem_singleton.2 rfl

theorem silent_valuePieces {a : Assignment} (h : a.isRawFree = true) :
    Silent .prepared a.valuePieces := by
  obtain ⟨c, v | e⟩ := a
  · exact silent_cons (quiet_argument _) silent_nil
  · exact silent_pieces h

theorem silent_setPieces (qualified : Bool) {as : List Assignment}
    (h : ∀ a ∈ as, a.isRawFree = true) : Silent .prepared (setPieces qualified as) := by
  refine silent_sql (by decide) (silent_separated (by decide) fun ps hps => ?_)
  obtain ⟨a, ha, rfl⟩ := List.mem_map.1 hps
  have hname : Silent .prepared (assignedName qualified a.column) := by
    cases qualified with
    | true => exact silent_qualified a.column
    | false => exact silent_cons (quiet_name _) silent_nil
  exact silent_append hname (silent_sql (by decide) (silent_valuePieces (h a ha)))

theorem silent_topPieces (n : Option Nat) : Silent .prepared (topPieces n) := by
  cases n with
  | none => exact silent_nil
  | some n =>
    exact silent_sql (by decide)
      (silent_cons (quiet_numberPiece n) (silent_sql (by decide) silent_nil))

theorem silent_fromPieces (t : Table) (j : Join) : Silent .prepared (fromPieces t j) := by
  unfold fromPieces
  split
  · exact silent_nil
  · refine silent_sql (by decide) (silent_separated (by decide) fun ps hps => ?_)
    obtain ⟨u, -, rfl⟩ := List.mem_map.1 hps
    exact silent_cons (quiet_name u.name) silent_nil

theorem quiet_aliasPiece (n : Nat) : Quiet ((aliasPiece n).tokens .prepared) := by
  rw [tokens_aliasPiece]
  exact List.forall_mem_singleton.2 rfl

theorem silent_selectPieces (n : Nat) {a : Assignment} (h : a.isRawFree = true) :
    Silent .prepared (selectPieces n a) := by
  have hcolumn : Silent .prepared (Piece.qualified a.column ++ [.sql " ", aliasPiece n]) :=
    silent_append (silent_qualified a.column)
      (silent_sql (by decide) (silent_cons (quiet_aliasPiece n) silent_nil))
  obtain ⟨c, v | e⟩ := a
  · exact silent_append hcolumn silent_nil
  · exact silent_append hcolumn (silent_append (silent_sql (by decide) (silent_pieces h))
      (silent_sql (by decide) (silent_cons (quiet_aliasPiece (n + 1)) silent_nil)))

theorem silent_viewSetPieces (n : Nat) {a : Assignment} (h : a.isRawFree = true) :
    Silent .prepared (viewSetPieces n a) := by
  have hset {ps : List Piece} (hps : Silent .prepared ps) :
      Silent .prepared ([.sql "x.", aliasPiece n, .sql " = "] ++ ps) :=
    silent_sql (by decide) (silent_cons (quiet_aliasPiece n) (silent_sql (by decide) hps))
  obtain ⟨c, v | e⟩ := a
  · exact hset (silent_valuePieces h)
  · exact hset (silent_sql (by decide) (silent_cons (quiet_aliasPiece (n + 1)) silent_nil))

theorem silent_aliased {f : Nat → Assignment → List Piece} {as : List Assignment}
    (h : ∀ n, ∀ a ∈ as, Silent .prepared (f n a)) :
    Silent .prepared (separated ", " ((aliased 0 as).map fun c => f c.1 c.2)) := by
  refine silent_separated (by decide) fun ps hps => ?_
  obtain ⟨c, hc, rfl⟩ := List.mem_map.1 hps
  exact h c.1 c.2 (snd_mem_of_mem_aliased hc)

end SqlUpdate
