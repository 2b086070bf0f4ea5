import Mathlib.Data.List.Forall2
import SqlUpdate.Proofs.Reading.Silent
/-!
# Conditions beside others

* `JoinPart.requirements` — what a part of a join requires: its pairs of equal columns, and its
  constraint with literals for its values.
* `Conjunction` — pieces that can stand beside others, and what they require.
* `conjunction_separated` — so can many of them, with `AND` in between.
* `conjunction_part`, `forall₂_joinConditions` — the conditions of one part, and of all.
-/

namespace SqlUpdate

/-! ### Requirements -/

/-- What a pair of columns requires. -/
def pairCondition (p : Column × Column) : Condition := .binary .eq p.1.condition p.2.condition

namespace JoinPart

/-- What the constraint of the part requires. -/
def constraintRequirements (p : JoinPart) : List (List Condition) :=
  (p.constraint.map fun e => (e.condition .inlined).conjuncts).toList

/-- What the part requires. -/
def requirements (p : JoinPart) : List Condition :=
  p.pairs.map pairCondition ++ p.constraintRequirements.flatten

/-- Whether the constraint of the part stands for a truth value. -/
def hasPredicate (p : JoinPart) : Bool := p.constraint.all Expr.isPredicate

end JoinPart

/-- What all parts of a join require. -/
def Join.requirements (j : Join) : List Condition := j.parts.flatMap JoinPart.requirements

/-- Whether every constraint of a join stands for a truth value. -/
def Join.hasPredicates (j : Join) : Bool := j.parts.all JoinPart.hasPredicate

theorem isRawFree_of_hasPredicate {p : JoinPart} (h : p.hasPredicate = true) :
    p.isRawFree = true := by
  rw [JoinPart.isRawFree]
  rw [JoinPart.hasPredicate] at h
  cases hp : p.constraint with
  | none => rfl
  | some e =>
    rw [hp] at h
    exact Expr.isRawFree_of_isPredicate h

/-- What the condition of a truth value requires are its conjuncts. -/
theorem requirements_condition (r : Reading) :
    {e : Expr} → e.isPredicate = true → (e.condition r).requirements = (e.condition r).conjuncts
  | .not _, _ => rfl
  | .isNull _ _, _ => rfl
  | .inList _ _ _, _ => rfl
  | .between _ _ _ _, _ => rfl
  | .paren e, h => by
    rw [Expr.isPredicate] at h
    rw [Expr.condition]
    exact requirements_condition r h
  | .binary op e f, _ => by
    rw [Expr.condition, Condition.apply]
    split <;> rfl

/-! ### Conjunctions -/

/-- Pieces that can stand beside others in a conjunction, and what they require. -/
structure Conjunction (ps : List Piece) (cs : List Condition) : Prop where
  /-- They are a first member or further ones. -/
  reads : ∃ c : Condition, c.requirements = cs ∧ c.conjuncts = cs ∧
    Reads BinaryOp.and.strength (tokensOf .prepared ps) c ∧ Joins .and (tokensOf .prepared ps) c
  /-- No other condition is in them. -/
  silent : Silent .prepared ps

namespace Conjunction

/-- What binds stronger than `AND`. -/
theorem of_reads {ps : List Piece} {c : Condition}
    (h : Reads (BinaryOp.and.strength + 1) (tokensOf .prepared ps) c)
    (hc : c.requirements = c.conjuncts) (hs : Silent .prepared ps) : Conjunction ps c.conjuncts :=
  ⟨⟨c, hc, rfl, h.weaken (Nat.le_succ _), joins_of_reads h⟩, hs⟩

/-- One conjunction behind another. -/
theorem and {ps qs : List Piece} {cs ds : List Condition} (hp : Conjunction ps cs)
    (hq : Conjunction qs ds) : Conjunction (ps ++ .sql " AND " :: qs) (cs ++ ds) := by
  obtain ⟨c, -, hc, hreads, hjoins⟩ := hp.reads
  obtain ⟨d, -, hd, -, hmore⟩ := hq.reads
  have hand : Piece.tokens .prepared (.sql " AND ") = [.op .and] := by decide
  have hboth : (Condition.apply .and c d).conjuncts = cs ++ ds := by
    rw [Condition.conjuncts_apply_and, hc, hd]
  refine ⟨⟨.apply .and c d, hboth, hboth, ?_, ?_⟩,
    silent_append hp.silent (silent_sql (by decide) hq.silent)⟩
  all_goals rw [tokensOf_append, tokensOf_cons, hand, List.singleton_append]
  · exact reads_chain hreads hmore
  · exact joins_chain rfl hjoins hmore

end Conjunction

theorem conjunction_separated {pss : List (List Piece)} {css : List (List Condition)}
    (h : List.Forall₂ Conjunction pss css) (hne : pss ≠ []) :
    Conjunction (separated " AND " pss) css.flatten := by
  induction h with
  | nil => exact absurd rfl hne
  | @cons ps cs pss css hps hpss ih =>
    cases hpss with
    | nil =>
      rw [List.flatten_singleton]
      exact hps
    | cons hqs hrest =>
      rw [List.flatten_cons]
      exact hps.and (ih (List.cons_ne_nil _ _))

/-! ### Members -/

theorem needsParens_and (e : Expr) : e.needsParens .and = e.isDisjunction := by
  cases e with
  | binary op _ _ => cases op <;> rfl
  | _ => rfl

/-- The condition on the rows beside others. -/
theorem conjunction_filter {e : Expr} (h : e.isPredicate = true) :
    Conjunction (conjunctPieces e) (e.condition .prepared).conjuncts := by
  have hmember : ReadsPredicate .prepared e := reads_predicate h
  have hraw := Expr.isRawFree_of_isPredicate h
  obtain ⟨hreads, hjoins⟩ := hmember.member (show BinaryOp.and.isLogical = true from rfl)
  rw [needsParens_and] at hreads hjoins
  exact ⟨⟨_, requirements_condition .prepared h, rfl, hreads, hjoins⟩,
    silent_parenthesizedIf _ (silent_pieces hraw)⟩

theorem silent_map_inlined {ps : List Piece} (h : Silent .inlined ps) :
    Silent .prepared (ps.map Piece.inlined) := by
  intro p hp
  obtain ⟨q, hq, rfl⟩ := List.mem_map.1 hp
  rw [tokens_inlined]
  exact h q hq

/-- A constraint between its parentheses. -/
theorem conjunction_constraint {e : Expr} (h : e.isPredicate = true) :
    Conjunction (constraintPieces e) (e.condition .inlined).conjuncts := by
  have hmember : ReadsPredicate .inlined e := reads_predicate h
  have hraw := Expr.isRawFree_of_isPredicate h
  refine .of_reads ?_ (requirements_condition .inlined h)
    (silent_parenthesized (silent_map_inlined (silent_pieces hraw)))
  rw [constraintPieces, tokensOf_parenthesized, tokensOf_map_inlined]
  exact reads_parenthesized hmember.condition _

theorem conjunction_pair (p : Column × Column) : Conjunction (pairPieces p) [pairCondition p] := by
  have heq : tokensOf .prepared (.sql " = " :: Piece.qualified p.2)
      = BinaryOp.eq.tokens ++ tokensOf .prepared (Piece.qualified p.2) := by
    have htokens : Piece.tokens .prepared (.sql " = ") = BinaryOp.eq.tokens := by decide
    rw [tokensOf_cons, htokens]
  have hreads : Reads BinaryOp.eq.strength (tokensOf .prepared (pairPieces p))
      (pairCondition p) := by
    rw [pairPieces, tokensOf_append, heq]
    exact reads_binary (reads_column _ _ p.1) (announces_operator .eq) (reads_column _ _ p.2)
  exact .of_reads (hreads.weaken (by decide)) rfl
    (silent_append (silent_qualified p.1) (silent_sql (by decide) (silent_qualified p.2)))

/-- What the number of met rows must be. -/
def rownumCondition (n : Nat) : Condition := .binary .le .rownum (.literal (Decimal.digits n))

theorem conjunction_rownum (n : Nat) : Conjunction (rownumPieces n) [rownumCondition n] := by
  have htokens : tokensOf .prepared (rownumPieces n)
      = [.rownumWord] ++ (BinaryOp.le.tokens ++ [.number (Decimal.digits n)]) := by
    have hwords : Piece.tokens .prepared (.sql "ROWNUM <= ") = [.rownumWord, .op .le] := by decide
    rw [rownumPieces, tokensOf_cons, tokensOf_cons, tokens_natural, hwords]
    rfl
  have hnumber : Reads (BinaryOp.le.strength + 1) [.number (Decimal.digits n)]
      (.literal (Decimal.digits n)) := reads_literal _ (.positive (.whole _))
  have hreads : Reads BinaryOp.le.strength (tokensOf .prepared (rownumPieces n))
      (rownumCondition n) := by
    rw [htokens]
    exact reads_binary (reads_value (List.cons_ne_nil _ _) fun _ _ _ => rfl)
      (announces_operator .le) hnumber
  exact .of_reads (hreads.weaken (by decide)) rfl
    (silent_sql (by decide) (silent_cons (quiet_numberPiece n) silent_nil))

/-! ### Joins -/

/-- The conditions of a part that has any. -/
theorem conjunction_part {p : JoinPart} (h : p.hasPredicate = true)
    (hp : p.hasConditions = true) : Conjunction p.conditionPieces p.requirements := by
  have hpairs : List.Forall₂ Conjunction (p.pairs.map pairPieces)
      (p.pairs.map fun q => [pairCondition q]) := by
    rw [List.forall₂_map_left_iff, List.forall₂_map_right_iff, List.forall₂_same]
    exact fun q _ => conjunction_pair q
  have hconstraint : List.Forall₂ Conjunction (p.constraint.map constraintPieces).toList
      p.constraintRequirements := by
    rw [JoinPart.hasPredicate] at h
    rw [JoinPart.constraintRequirements]
    cases hc : p.constraint with
    | none => exact .nil
    | some e =>
      rw [hc] at h
      exact .cons (conjunction_constraint h) .nil
  have hne : p.conditions ≠ [] := by
    intro hnil
    obtain ⟨hnone, hempty⟩ := List.append_eq_nil_iff.1 hnil
    rw [JoinPart.hasConditions, List.map_eq_nil_iff.1 hnone, Bool.or_eq_true] at hp
    rcases hp with hp | hp
    · cases hp
    · cases hc : p.constraint with
      | none => rw [hc] at hp; cases hp
      | some e => rw [hc] at hempty; cases hempty
  have hall := conjunction_separated (List.rel_append hpairs hconstraint) hne
  rw [List.flatten_append] at hall
  rw [JoinPart.requirements]
  have hsingle : (p.pairs.map fun q => [pairCondition q]).flatten = p.pairs.map pairCondition := by
    rw [← List.flatMap_def]
    exact (List.map_eq_flatMap).symm
  rw [← hsingle]
  exact hall

/-- A part without conditions requires nothing. -/
theorem requirements_of_no_conditions {p : JoinPart} (h : p.hasConditions = false) :
    p.requirements = [] := by
  rw [JoinPart.hasConditions, Bool.or_eq_false_iff] at h
  obtain ⟨hpairs, hconstraint⟩ := h
  have hnone : p.constraint = none := by
    rw [← Option.not_isSome_iff_eq_none, hconstraint]
    exact Bool.false_ne_true
  have hnil : p.pairs = [] := by
    rw [Bool.not_eq_false', List.isEmpty_iff] at hpairs
    exact hpairs
  rw [JoinPart.requirements, JoinPart.constraintRequirements, hnone, hnil]
  rfl

/-- The conditions of all parts of a join, side by side. -/
theorem forall₂_joinConditions {j : Join} (h : j.hasPredicates = true) :
    List.Forall₂ Conjunction (joinConditions j)
      ((j.parts.filter JoinPart.hasConditions).map JoinPart.requirements) := by
  rw [joinConditions, List.forall₂_map_left_iff, List.forall₂_map_right_iff, List.forall₂_same]
  intro p hp
  have hpart := List.all_eq_true.1 h p (List.mem_of_mem_filter hp)
  exact conjunction_part hpart (List.mem_filter.1 hp).2

theorem flatten_requirements (ps : List JoinPart) :
    ((ps.filter JoinPart.hasConditions).map JoinPart.requirements).flatten
      = ps.flatMap JoinPart.requirements := by
  induction ps with
  | nil => rfl
  | cons p ps ih =>
    rw [List.flatMap_cons, ← ih]
    cases hp : p.hasConditions with
    | true => rw [List.filter_cons_of_pos hp, List.map_cons, List.flatten_cons]
    | false =>
      rw [List.filter_cons_of_neg (by rw [hp]; exact Bool.false_ne_true),
        requirements_of_no_conditions hp, List.nil_append]

end SqlUpdate
