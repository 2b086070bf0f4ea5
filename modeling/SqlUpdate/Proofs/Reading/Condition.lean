import SqlUpdate.Proofs.Lexical.Spacing
/-!
# Conditions as they are understood

* `Condition` — what the text of a condition says, without its parentheses.
* `Condition.apply` — two conditions and an operator. Conjunctions of conjunctions are one chain,
  and so are disjunctions of disjunctions.
* `Expr.condition` — what an expression says.
* `Expr.isScalar`, `Expr.isPredicate` — the expressions that stand for values and for truth values.
-/

namespace SqlUpdate

/-- What the text of a condition, or of a value in one, says. -/
inductive Condition where
  /-- A column of a table. -/
  | column (table name : List Char)
  /-- A value that is bound. -/
  | argument (a : Argument)
  /-- A literal as it is written. -/
  | literal (cs : List Char)
  /-- The number of rows that were met. -/
  | rownum
  /-- Two values and the operator between them. -/
  | binary (op : BinaryOp) (left right : Condition)
  /-- A conjunction or a disjunction. -/
  | chain (op : BinaryOp) (members : List Condition)
  /-- A negation. -/
  | not (c : Condition)
  /-- Whether a value is absent, or whether it is not. -/
  | isNull (negated : Bool) (c : Condition)
  /-- Whether a value is in a list, or whether it is not. -/
  | inList (negated : Bool) (c : Condition) (items : List Condition)
  /-- Whether a value lies between two others, or whether it does not. -/
  | between (negated : Bool) (c low high : Condition)

namespace Condition

/-- The members of a chain of an operator, or the condition itself. -/
def membersOf (op : BinaryOp) : Condition → List Condition
  | chain op' cs => if op' = op then cs else [chain op' cs]
  | c => [c]

/-- The conditions that must hold together. -/
def conjuncts (c : Condition) : List Condition := c.membersOf .and

/-- Two conditions and an operator. -/
def apply (op : BinaryOp) (c d : Condition) : Condition :=
  if op.isLogical then chain op (c.membersOf op ++ d.membersOf op) else binary op c d

theorem apply_of_logical {op : BinaryOp} (h : op.isLogical = true) (c d : Condition) :
    apply op c d = chain op (c.membersOf op ++ d.membersOf op) := if_pos h

@[simp] theorem membersOf_chain (op : BinaryOp) (cs : List Condition) :
    (chain op cs).membersOf op = cs := if_pos rfl

/-- Chains can be regrouped. -/
theorem apply_assoc {op : BinaryOp} (h : op.isLogical = true) (c d e : Condition) :
    apply op (apply op c d) e = apply op c (apply op d e) := by
  simp only [apply_of_logical h, membersOf_chain, List.append_assoc]

@[simp] theorem conjuncts_apply_and (c d : Condition) :
    (apply .and c d).conjuncts = c.conjuncts ++ d.conjuncts := rfl

end Condition

/-! ### Expressions -/

/-- What an argument says, as a bound value or as a literal. -/
def Argument.condition (r : Reading) (a : Argument) : Condition :=
  match r with
  | .prepared => .argument a
  | .inlined => .literal a.value.literal.toList

/-- What the name of a column says. -/
def Column.condition (c : Column) : Condition := .column c.table.toList c.name.toList

namespace Expr

mutual
/-- What an expression says. -/
def condition (r : Reading) : Expr → Condition
  | .column c => c.condition
  | .argument a => a.condition r
  | .raw s => .literal s.toList
  | .binary op e f => .apply op (e.condition r) (f.condition r)
  | .not e => .not (e.condition r)
  | .isNull negated e => .isNull negated (e.condition r)
  | .inList negated e items => .inList negated (e.condition r) (itemConditions r items)
  | .between negated e low high =>
    .between negated (e.condition r) (low.condition r) (high.condition r)
  | .paren e => e.condition r

/-- What the items of a list say. -/
def itemConditions (r : Reading) : List Expr → List Condition
  | [] => []
  | e :: es => e.condition r :: itemConditions r es
end

/-- Whether an expression stands for a value. -/
def isScalar : Expr → Bool
  | .column _ | .argument _ => true
  | .binary op e f => op.isArithmetic && e.isScalar && f.isScalar
  | .paren e => e.isScalar
  | _ => false

/-- Whether an expression stands for a truth value. -/
def isPredicate : Expr → Bool
  | .binary op e f =>
    if op.isLogical then e.isPredicate && f.isPredicate
    else !op.isArithmetic && e.isScalar && f.isScalar
  | .not e | .paren e => e.isPredicate
  | .isNull _ e => e.isScalar
  | .inList _ e items => e.isScalar && items.all isScalar
  | .between _ e low high => e.isScalar && low.isScalar && high.isScalar
  | _ => false

/-- Values hold no raw fragment. -/
theorem isRawFree_of_isScalar : {e : Expr} → e.isScalar = true → e.isRawFree = true
  | .column _, _ => rfl
  | .argument _, _ => rfl
  | .binary op e f, h => by
    rw [isScalar, Bool.and_eq_true, Bool.and_eq_true] at h
    rw [isRawFree, isRawFree_of_isScalar h.1.2, isRawFree_of_isScalar h.2]
    rfl
  | .paren e, h => by
    rw [isScalar] at h
    rw [isRawFree, isRawFree_of_isScalar h]

theorem areRawFree_of_isScalar {es : List Expr} (h : es.all isScalar = true) :
    areRawFree es = true := by
  induction es with
  | nil => rfl
  | cons e es ih =>
    rw [List.all_cons, Bool.and_eq_true] at h
    rw [areRawFree, isRawFree_of_isScalar h.1, ih h.2]
    rfl

/-- Truth values hold no raw fragment. -/
theorem isRawFree_of_isPredicate : {e : Expr} → e.isPredicate = true → e.isRawFree = true
  | .binary op e f, h => by
    rw [isPredicate] at h
    split at h
    · rw [Bool.and_eq_true] at h
      rw [isRawFree, isRawFree_of_isPredicate h.1, isRawFree_of_isPredicate h.2]
      rfl
    · rw [Bool.and_eq_true, Bool.and_eq_true] at h
      rw [isRawFree, isRawFree_of_isScalar h.1.2, isRawFree_of_isScalar h.2]
      rfl
  | .not e, h => by
    rw [isPredicate] at h
    rw [isRawFree, isRawFree_of_isPredicate h]
  | .paren e, h => by
    rw [isPredicate] at h
    rw [isRawFree, isRawFree_of_isPredicate h]
  | .isNull _ e, h => by
    rw [isPredicate] at h
    rw [isRawFree, isRawFree_of_isScalar h]
  | .inList _ e items, h => by
    rw [isPredicate, Bool.and_eq_true] at h
    rw [isRawFree, isRawFree_of_isScalar h.1, areRawFree_of_isScalar h.2]
    rfl
  | .between _ e low high, h => by
    rw [isPredicate, Bool.and_eq_true, Bool.and_eq_true] at h
    rw [isRawFree, isRawFree_of_isScalar h.1.1, isRawFree_of_isScalar h.1.2,
      isRawFree_of_isScalar h.2]
    rfl

end Expr

end SqlUpdate
