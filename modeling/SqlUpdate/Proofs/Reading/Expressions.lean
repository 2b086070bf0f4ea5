import SqlUpdate.Proofs.Reading.PieceTokens
import SqlUpdate.Proofs.Reading.Rules
/-!
# Expressions are read as they are meant

* `reads_column`, `reads_argument` — operands of one value.
* `reads_scalar` — values, with the parentheses around the operands of arithmetic.
* `reads_predicate` — truth values, whose chains may run together.
-/

namespace SqlUpdate

/-! ### Values -/

theorem readUnsigned_number {ds : List Char} {rest : List Token} (h : rest.head? ≠ some .point) :
    readUnsigned (.number ds :: rest) = some (ds, rest) := by
  cases rest with
  | nil => rfl
  | cons t rest =>
    cases t with
    | point => exact absurd rfl h
    | _ => rfl

/-- Numbers are read up to where they end. -/
theorem readUnsigned_tokens {ts : List Token} {cs : List Char} (h : UnsignedTokens ts cs)
    {rest : List Token} (hrest : rest.head? ≠ some .point) :
    readUnsigned (ts ++ rest) = some (cs, rest) := by
  cases h with
  | whole ds => exact readUnsigned_number hrest
  | decimal ds es => rfl
  | infinity => rfl

/-- An operand of one value is a condition that nothing can take apart. -/
theorem reads_value {p : Nat} {ts : List Token} {c : Condition} (hne : ts ≠ [])
    (h : ∀ rest, rest.head? ≠ some .point → ∀ q,
      readOperand 1 q (ts ++ rest) = some (c, rest)) : Reads p ts c := by
  refine reads_of_operand hne fun q _ rest hstop fuel hfuel => ?_
  have hlen := List.length_pos_iff.2 hne
  exact readOperand_mono (show 1 ≤ fuel by omega) (h rest hstop.noPoint q)

theorem reads_literal (p : Nat) {ts : List Token} {cs : List Char} (h : LiteralTokens ts cs) :
    Reads p ts (.literal cs) := by
  cases h with
  | null => exact reads_value (List.cons_ne_nil _ _) fun _ _ _ => rfl
  | word cs => exact reads_value (List.cons_ne_nil _ _) fun _ _ _ => rfl
  | negative hts =>
    refine reads_value (List.cons_ne_nil _ _) fun rest hrest q => ?_
    show (readUnsigned (_ ++ rest)).map _ = _
    rw [readUnsigned_tokens hts hrest]
    rfl
  | positive hts =>
    have hread {rest : List Token} (hrest : rest.head? ≠ some .point) :
        (readUnsigned (ts ++ rest)).map (fun r => (Condition.literal r.1, r.2))
          = some (.literal cs, rest) := by
      rw [readUnsigned_tokens hts hrest]
      rfl
    cases hts with
    | whole ds => exact reads_value (List.cons_ne_nil _ _) fun _ hrest _ => hread hrest
    | decimal ds es => exact reads_value (List.cons_ne_nil _ _) fun _ hrest _ => hread hrest
    | infinity =>
      refine reads_value (List.cons_ne_nil _ _) fun rest hrest _ => ?_
      cases rest with
      | nil => rfl
      | cons t rest =>
        cases t with
        | point => exact absurd rfl hrest
        | _ => rfl

theorem tokensOf_qualified (r : Reading) (c : Column) :
    tokensOf r (Piece.qualified c) = [.name c.table.toList, .point, .name c.name.toList] := rfl

theorem reads_column (p : Nat) (r : Reading) (c : Column) :
    Reads p (tokensOf r (Piece.qualified c)) c.condition := by
  rw [tokensOf_qualified]
  exact reads_value (List.cons_ne_nil _ _) fun _ _ _ => rfl

theorem reads_argument (p : Nat) (r : Reading) (a : Argument) :
    Reads p (tokensOf r [.argument a]) (a.condition r) := by
  rw [tokensOf_cons, tokensOf_nil, List.append_nil]
  cases r with
  | prepared => exact reads_value (List.cons_ne_nil _ _) fun _ _ _ => rfl
  | inlined => exact reads_literal p (literalTokens_lexemes a.value)

/-! ### Scalars -/

theorem tokensOf_parenthesized (r : Reading) (ps : List Piece) :
    tokensOf r (parenthesized ps) = .opening :: (tokensOf r ps ++ [.closing]) := by
  rw [parenthesized, tokensOf_cons, tokensOf_append]
  rfl

/-- The tokens of an operator. -/
def BinaryOp.tokens : BinaryOp → List Token
  | notLike => [.notWord, .op .like]
  | op => [.op op]

theorem tokensOf_operator (r : Reading) (op : BinaryOp) :
    tokensOf r [.sql " ", .sql op.sql, .sql " "] = op.tokens := by
  cases op <;> cases r <;> decide

theorem announces_operator (op : BinaryOp) : Announces op.tokens (.operator op) := by
  intro vs
  cases op <;> exact ⟨rfl, nofun⟩

theorem tokens_of_isLogical {op : BinaryOp} (h : op.isLogical = true) : op.tokens = [.op op] := by
  cases op <;> first | rfl | cases h

section Expressions

variable (r : Reading)

/-- What an operand of an expression is read as. -/
def ReadsExpr (p : Nat) (e : Expr) : Prop := Reads p (tokensOf r e.pieces) (e.condition r)

theorem reads_parens {e : Expr} (h : ReadsExpr r 1 e) (p : Nat) :
    Reads p (tokensOf r (parenthesized e.pieces)) (e.condition r) := by
  rw [tokensOf_parenthesized]
  exact reads_parenthesized h p

/-- Two operands and an operator, with parentheses where they are needed. -/
theorem readsExpr_binary {op : BinaryOp} {e f : Expr}
    (he : Reads op.strength (tokensOf r (parenthesizedIf (e.needsParens op) e.pieces))
      (e.condition r))
    (hf : Reads (op.strength + 1) (tokensOf r (parenthesizedIf (f.needsParens op) f.pieces))
      (f.condition r)) : ReadsExpr r op.strength (.binary op e f) := by
  rw [ReadsExpr, Expr.pieces, Expr.condition, tokensOf_append, tokensOf_append,
    tokensOf_operator, List.append_assoc]
  exact reads_binary he (announces_operator op) hf

/-- How strongly the operands of arithmetic are bound at most. -/
def atomStrength : Nat := 7

/-- Values are read as sums, and single values even as operands of products. -/
theorem reads_scalar : {e : Expr} → e.isScalar = true →
    ReadsExpr r 5 e ∧ (e.isBinary = false → ReadsExpr r atomStrength e)
  | .column c, _ => ⟨reads_column 5 r c, fun _ => reads_column _ r c⟩
  | .argument a, _ => ⟨reads_argument 5 r a, fun _ => reads_argument _ r a⟩
  | .paren e, h => by
    rw [Expr.isScalar] at h
    have hinner : ReadsExpr r 1 e := (reads_scalar h).1.weaken (by decide)
    exact ⟨reads_parens r hinner 5, fun _ => reads_parens r hinner _⟩
  | .binary op e f, h => by
    rw [Expr.isScalar, Bool.and_eq_true, Bool.and_eq_true] at h
    obtain ⟨⟨hop, he⟩, hf⟩ := h
    have operand {g : Expr} (hs : g.isScalar = true)
        (hg : ReadsExpr r 5 g ∧ (g.isBinary = false → ReadsExpr r atomStrength g)) :
        Reads atomStrength (tokensOf r (parenthesizedIf (g.needsParens op) g.pieces))
          (g.condition r) := by
      cases hparens : g.needsParens op with
      | true => exact reads_parens r (hg.1.weaken (by decide)) _
      | false =>
        refine hg.2 ?_
        cases g with
        | binary op' _ _ =>
          rw [Expr.isScalar, Bool.and_eq_true, Bool.and_eq_true] at hs
          rw [Expr.needsParens, hs.1.1, hop, Bool.and_true, Bool.or_true] at hparens
          cases hparens
        | _ => rfl
    have hstrength : 5 ≤ op.strength ∧ op.strength + 1 ≤ atomStrength := by
      cases op <;> first | decide | cases hop
    have hbinary := readsExpr_binary r ((operand he (reads_scalar he)).weaken (by omega))
      ((operand hf (reads_scalar hf)).weaken hstrength.2)
    exact ⟨hbinary.weaken hstrength.1, fun h => Bool.noConfusion h⟩

/-! ### Lists -/

/-- The items of a list are read up to its closing parenthesis. -/
theorem readsItems_scalars {e : Expr} {es : List Expr} (he : e.isScalar = true)
    (hes : es.all Expr.isScalar = true) :
    ReadsItems (tokensOf r (separated ", " (Expr.itemPieces (e :: es))) ++ [.closing])
      (Expr.itemConditions r (e :: es)) := by
  have hcomma : Piece.tokens r (.sql ", ") = [.comma] := by cases r <;> decide
  induction es generalizing e with
  | nil => exact readsItems_singleton ((reads_scalar r he).1.weaken (by decide))
  | cons f es ih =>
    rw [List.all_cons, Bool.and_eq_true] at hes
    have hrest := ih hes.1 hes.2
    have hitem : ReadsExpr r 1 e := (reads_scalar r he).1.weaken (by decide)
    rw [Expr.itemPieces, Expr.itemPieces, separated, ← Expr.itemPieces, tokensOf_append,
      tokensOf_cons, hcomma, List.append_assoc, Expr.itemConditions]
    exact readsItems_cons hitem hrest

theorem tokensOf_inList (negated : Bool) (ps : List Piece) :
    tokensOf r (.sql (if negated then " NOT IN (" else " IN (") :: ps)
      = inWords negated ++ tokensOf r ps := by
  have hwords : Piece.tokens r (.sql (if negated then " NOT IN (" else " IN ("))
      = inWords negated := by
    cases negated <;> cases r <;> decide
  rw [tokensOf_cons, hwords]

theorem readsExpr_inList (negated : Bool) {e : Expr} {items : List Expr} (he : e.isScalar = true)
    (hitems : items.all Expr.isScalar = true) : ReadsExpr r 4 (.inList negated e items) := by
  have hclosing : tokensOf r [.sql ")"] = [.closing] := by cases r <;> decide
  have hleft : ReadsExpr r 4 e := (reads_scalar r he).1.weaken (by decide)
  rw [ReadsExpr, Expr.pieces, Expr.condition, List.append_assoc, List.append_assoc,
    tokensOf_append, List.singleton_append, tokensOf_inList, tokensOf_append, hclosing]
  cases items with
  | nil => exact reads_inList_nil negated hleft
  | cons f items =>
    rw [List.all_cons, Bool.and_eq_true] at hitems
    exact reads_inList negated hleft (readsItems_scalars r hitems.1 hitems.2)

/-! ### Predicates -/

theorem readsExpr_isNull (negated : Bool) {e : Expr} (he : e.isScalar = true) :
    ReadsExpr r 4 (.isNull negated e) := by
  have hwords : tokensOf r [.sql (if negated then " IS NOT NULL" else " IS NULL")]
      = isNullWords negated := by cases negated <;> cases r <;> decide
  rw [ReadsExpr, Expr.pieces, Expr.condition, tokensOf_append, hwords]
  exact reads_isNull negated ((reads_scalar r he).1.weaken (by decide))

theorem readsExpr_between (negated : Bool) {e low high : Expr} (he : e.isScalar = true)
    (hlow : low.isScalar = true) (hhigh : high.isScalar = true) :
    ReadsExpr r 4 (.between negated e low high) := by
  have hwords : tokensOf r [.sql (if negated then " NOT BETWEEN " else " BETWEEN ")]
      = betweenWords negated := by cases negated <;> cases r <;> decide
  have hand : tokensOf r [.sql " AND "] = [.op .and] := by cases r <;> decide
  rw [ReadsExpr, Expr.pieces, Expr.condition]
  simp only [List.append_assoc, tokensOf_append, hwords, hand]
  exact reads_between negated ((reads_scalar r he).1.weaken (by decide)) (reads_scalar r hlow).1
    (reads_scalar r hhigh).1

/-- How tokens are read that stand for a truth value. -/
structure ReadsPredicate (e : Expr) : Prop where
  /-- They are a condition. -/
  condition : ReadsExpr r 1 e
  /-- Without parentheses, they are the first members of a chain or further ones. -/
  members : ∀ op : BinaryOp, op.isLogical = true → e.needsParens op = false →
    ReadsExpr r op.strength e ∧ Joins op (tokensOf r e.pieces) (e.condition r)
  /-- Unless they are an operator and its operands, `NOT` can stand in front of them. -/
  negatable : e.isBinary = false → ReadsExpr r notStrength e

theorem strength_of_isLogical {op : BinaryOp} (h : op.isLogical = true) :
    1 ≤ op.strength ∧ op.strength + 1 ≤ notStrength := by
  cases op <;> first | decide | cases h

variable {r}

/-- What binds stronger than chains can be a member of any of them. -/
theorem ReadsExpr.predicate {e : Expr} (h : ReadsExpr r notStrength e) : ReadsPredicate r e where
  condition := h.weaken (by decide)
  members op hop _ := by
    have hstrength := (strength_of_isLogical hop).2
    exact ⟨h.weaken (by omega), joins_of_reads (h.weaken hstrength)⟩
  negatable _ := h

/-- A member of a chain, with parentheses where they are needed. -/
theorem ReadsPredicate.member {e : Expr} (h : ReadsPredicate r e) {op : BinaryOp}
    (hop : op.isLogical = true) :
    Reads op.strength (tokensOf r (parenthesizedIf (e.needsParens op) e.pieces)) (e.condition r) ∧
      Joins op (tokensOf r (parenthesizedIf (e.needsParens op) e.pieces)) (e.condition r) := by
  cases hparens : e.needsParens op with
  | true =>
    exact ⟨reads_parens r h.condition _, joins_of_reads (reads_parens r h.condition _)⟩
  | false => exact h.members op hop hparens

/-- A chain of two members. -/
theorem readsPredicate_chain {op : BinaryOp} (hop : op.isLogical = true) {e f : Expr}
    (he : ReadsPredicate r e) (hf : ReadsPredicate r f) : ReadsPredicate r (.binary op e f) := by
  have htokens : tokensOf r (Expr.binary op e f).pieces
      = tokensOf r (parenthesizedIf (e.needsParens op) e.pieces)
        ++ .op op :: tokensOf r (parenthesizedIf (f.needsParens op) f.pieces) := by
    rw [Expr.pieces, tokensOf_append, tokensOf_append, tokensOf_operator, tokens_of_isLogical hop,
      List.append_assoc, List.singleton_append]
  have hchain : ReadsExpr r op.strength (.binary op e f) := by
    rw [ReadsExpr, htokens, Expr.condition]
    exact reads_chain (he.member hop).1 (hf.member hop).2
  have hjoins : Joins op (tokensOf r (Expr.binary op e f).pieces)
      ((Expr.binary op e f).condition r) := by
    rw [htokens, Expr.condition]
    exact joins_chain hop (he.member hop).2 (hf.member hop).2
  refine ⟨hchain.weaken (strength_of_isLogical hop).1, fun op' _ hparens => ?_, nofun⟩
  have hsame : op = op' := by
    rw [Expr.needsParens, hop, Bool.true_and, Bool.or_eq_false_iff] at hparens
    exact Classical.not_not.1 (of_decide_eq_false hparens.1)
  rw [← hsame]
  exact ⟨hchain, hjoins⟩

/-- Truth values are read as they are meant. -/
theorem reads_predicate : {e : Expr} → e.isPredicate = true → ReadsPredicate r e
  | .not e, h => by
    rw [Expr.isPredicate] at h
    have hinner : ReadsPredicate r e := reads_predicate h
    have hnot : Piece.tokens r (.sql "NOT ") = [.notWord] := by cases r <;> decide
    refine ReadsExpr.predicate ?_
    rw [ReadsExpr, Expr.pieces, Expr.condition, tokensOf_cons, hnot, List.singleton_append]
    refine reads_not ?_
    cases hbinary : e.isBinary with
    | true => exact reads_parens r hinner.condition _
    | false => exact hinner.negatable hbinary
  | .paren e, h => by
    rw [Expr.isPredicate] at h
    exact ReadsExpr.predicate (reads_parens r (reads_predicate h).condition _)
  | .isNull negated e, h => by
    rw [Expr.isPredicate] at h
    exact ReadsExpr.predicate ((readsExpr_isNull r negated h).weaken (by decide))
  | .inList negated e items, h => by
    rw [Expr.isPredicate, Bool.and_eq_true] at h
    exact ReadsExpr.predicate ((readsExpr_inList r negated h.1 h.2).weaken (by decide))
  | .between negated e low high, h => by
    rw [Expr.isPredicate, Bool.and_eq_true, Bool.and_eq_true] at h
    exact ReadsExpr.predicate ((readsExpr_between r negated h.1.1 h.1.2 h.2).weaken (by decide))
  | .binary op e f, h => by
    rw [Expr.isPredicate] at h
    split at h
    · rename_i hop
      rw [Bool.and_eq_true] at h
      exact readsPredicate_chain hop (reads_predicate h.1) (reads_predicate h.2)
    · rename_i hop
      rw [Bool.and_eq_true, Bool.and_eq_true, Bool.not_eq_true'] at h
      obtain ⟨⟨harith, he⟩, hf⟩ := h
      have hparens {g : Expr} (hg : g.isScalar = true) : g.needsParens op = false := by
        cases g with
        | binary op' _ _ =>
          rw [Expr.isScalar, Bool.and_eq_true, Bool.and_eq_true] at hg
          have hlogical : op'.isLogical = false := by
            cases op' <;> first | rfl | exact absurd hg.1.1 (by decide)
          rw [Expr.needsParens, hlogical, harith, Bool.and_false, Bool.false_and]
          rfl
        | _ => rfl
      have hstrength : op.strength = 4 := by
        cases op <;> first | rfl | exact absurd rfl hop | cases harith
      have hbinary : ReadsExpr r op.strength (.binary op e f) := by
        refine readsExpr_binary r ?_ ?_
        · rw [hparens he, hstrength]
          exact (reads_scalar r he).1.weaken (by decide)
        · rw [hparens hf, hstrength]
          exact (reads_scalar r hf).1
      exact ReadsExpr.predicate (hbinary.weaken (by rw [hstrength]; decide))

end Expressions

end SqlUpdate
