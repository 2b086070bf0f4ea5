import SqlUpdate.Proofs.Lexical.Spacing
/-!
# Statements keep their pieces apart

* `spaced_setPieces`, `spaced_wherePieces`, `spaced_joinPieces`, ... — every clause keeps its pieces
  apart and starts apart from the clause before it.
* `spaced_planPieces` — so does every statement whose form is decided.
* `Update.isRawFree`, `spaced_render` — so does every rendered statement without raw fragments.
-/

namespace SqlUpdate

/-! ### Statements without raw fragments -/

/-- Whether what a column is set to holds no raw fragment. -/
def Assignment.isRawFree (a : Assignment) : Bool :=
  match a.assigned with
  | .value _ => true
  | .expr e => e.isRawFree

/-- Whether the constraint of a join part holds no raw fragment. -/
def JoinPart.isRawFree (p : JoinPart) : Bool := p.constraint.all Expr.isRawFree

/-- Whether no constraint of a join holds a raw fragment. -/
def Join.isRawFree (j : Join) : Bool := j.parts.all JoinPart.isRawFree

/-- Whether no constraint of a relation holds a raw fragment. -/
def Target.isRawFree : Target → Bool
  | .join j => j.isRawFree
  | _ => true

/-- Whether a statement holds no raw fragment. -/
def Update.isRawFree (u : Update) : Bool :=
  u.target.isRawFree && u.assignments.all Assignment.isRawFree && u.filter.all Expr.isRawFree

/-- Whether the tables and conditions of a form hold no raw fragment. -/
def Form.isRawFree : Form → Bool
  | .table .. => true
  | .list j | .from _ j _ _ | .view j _ => j.isRawFree
  | .merge _ _ part => part.isRawFree

/-- A form holds no raw fragment that its relation does not hold. -/
theorem isRawFree_of_planTarget {d : Dialect} {t : Target} {as : List Assignment}
    {limit : Option Nat} {form : Form} (h : planTarget d t as limit = .ok form)
    (ht : t.isRawFree = true) : form.isRawFree = true := by
  obtain ⟨table, rfl, hform⟩ | ⟨j, rfl, hform⟩ := planTarget_eq_ok h
  · obtain ⟨-, rfl⟩ | ⟨n, style, -, -, rfl⟩ := planTable_eq_ok hform
    · rfl
    · rfl
  · cases planJoin_eq_ok hform with
    | list => exact ht
    | «from» => exact ht
    | merge _ _ _ hp => exact List.all_eq_true.1 ht _ (hp ▸ List.mem_singleton.2 rfl)
    | view => exact ht

/-! ### Numbers -/

theorem isSound_natural (s : String) (hs : s.toList.all isCalm = true) (n : Nat) :
    (Piece.sql (s ++ Decimal.natural n)).isSound = true := by
  have hdigits : (Decimal.digits n).all isCalm = true := by
    refine List.all_eq_true.2 fun c hc => ?_
    rw [isCalm, Char.isAlphanum, Decimal.isDigit_of_mem_digits hc, Bool.or_true]
    rfl
  have hne : (s.toList ++ Decimal.digits n).isEmpty = false := by
    rw [List.isEmpty_eq_false_iff]
    exact fun h => Nat.toDigits_ne_nil (List.append_eq_nil_iff.1 h).2
  rw [Piece.isSound, String.toList_append, Decimal.natural, String.toList_ofList, hne,
    List.all_append, hs, hdigits]
  rfl

theorem isSound_numberPiece (n : Nat) : (numberPiece n).isSound = true := by
  rw [numberPiece, ← String.empty_append (s := Decimal.natural n)]
  exact isSound_natural "" rfl n

theorem isSound_aliasPiece (n : Nat) : (aliasPiece n).isSound = true :=
  isSound_natural "c" (by decide) n

/-! ### Clauses -/

theorem spaced_valuePieces {a : Assignment} (h : a.isRawFree = true) : Spaced a.valuePieces := by
  obtain ⟨c, v | e⟩ := a
  · exact .singleton rfl
  · exact Expr.spaced_pieces e h

theorem spaced_assignedName (qualified : Bool) (c : Column) :
    Spaced (assignedName qualified c) := by
  cases qualified with
  | true => exact spaced_qualified c
  | false => exact .singleton rfl

theorem spaced_setPieces (qualified : Bool) {as : List Assignment}
    (h : ∀ a ∈ as, a.isRawFree = true) : Spaced (setPieces qualified as) := by
  refine .cons (by decide) (by decide) (spaced_commas fun ps hps => ?_)
  obtain ⟨a, ha, rfl⟩ := List.mem_map.1 hps
  exact (spaced_assignedName qualified a.column).append
    (.cons (by decide) (by decide) (spaced_valuePieces (h a ha))) (startsApart_cons (by decide))

theorem startsApart_setPieces (qualified : Bool) (as : List Assignment) :
    StartsApart (setPieces qualified as) := startsApart_cons (by decide)

theorem spaced_wherePieces {filter : Option Expr} (h : filter.all Expr.isRawFree = true) :
    Spaced (wherePieces filter) := by
  cases filter with
  | none => exact .nil
  | some e => exact .cons (by decide) (by decide) (Expr.spaced_pieces e h)

theorem startsApart_wherePieces (filter : Option Expr) : StartsApart (wherePieces filter) := by
  cases filter with
  | none => exact startsApart_nil
  | some e => exact startsApart_cons (by decide)

theorem spaced_conjunctPieces {e : Expr} (h : e.isRawFree = true) : Spaced (conjunctPieces e) :=
  spaced_parenthesizedIf _ (Expr.spaced_pieces e h)

theorem spaced_topPieces_append (n : Option Nat) {ps : List Piece} (h : Spaced ps) :
    Spaced (topPieces n ++ ps) := by
  cases n with
  | none => exact h
  | some n =>
    exact .cons (by decide) (by decide) (.cons_append (isSound_numberPiece n)
      (.cons (by decide) (by decide) h) (startsApart_cons (by decide)))

theorem spaced_rownumPieces (n : Nat) : Spaced (rownumPieces n) :=
  .cons (by decide) (by decide) (.singleton (isSound_numberPiece n))

theorem spaced_rownumClause (n : Option Nat) : Spaced (rownumClause n) := by
  cases n with
  | none => exact .nil
  | some n => exact .cons (by decide) (by decide) (spaced_rownumPieces n)

theorem startsApart_rownumClause (n : Option Nat) : StartsApart (rownumClause n) := by
  cases n with
  | none => exact startsApart_nil
  | some n => exact startsApart_cons (by decide)

/-! ### Joins -/

theorem spaced_pairPieces (p : Column × Column) : Spaced (pairPieces p) :=
  (spaced_qualified p.1).append (.cons (by decide) (by decide) (spaced_qualified p.2))
    (startsApart_cons (by decide))

/-- Writing literals in place of arguments moves nothing together. -/
theorem spaced_map_inlined {ps : List Piece} (h : Spaced ps) : Spaced (ps.map Piece.inlined) := by
  have hstart (p : Piece) : p.inlined.startsApart = p.startsApart := by cases p <;> rfl
  have hend (p : Piece) : p.inlined.endsApart = p.endsApart := by cases p <;> rfl
  have hsound (p : Piece) : p.inlined.isSound = p.isSound := by cases p <;> rfl
  refine ⟨?_, fun p hp => ?_⟩
  · rw [List.isChain_map]
    refine h.apart.imp fun p q hpq => ?_
    rwa [Piece.Apart, hend, hstart]
  · obtain ⟨q, hq, rfl⟩ := List.mem_map.1 hp
    exact (hsound q).trans (h.sound q hq)

theorem spaced_constraintPieces {e : Expr} (h : e.isRawFree = true) : Spaced (constraintPieces e) :=
  spaced_parenthesized (spaced_map_inlined (Expr.spaced_pieces e h))

theorem spaced_conditionPieces {p : JoinPart} (h : p.isRawFree = true) :
    Spaced p.conditionPieces := by
  refine spaced_ands fun ps hps => ?_
  rcases List.mem_append.1 hps with hps | hps
  · obtain ⟨pair, -, rfl⟩ := List.mem_map.1 hps
    exact spaced_pairPieces pair
  · rw [Option.mem_toList, Option.map_eq_some_iff] at hps
    obtain ⟨e, he, rfl⟩ := hps
    rw [JoinPart.isRawFree, he] at h
    exact spaced_constraintPieces h

theorem spaced_partPieces {p : JoinPart} (h : p.isRawFree = true) : Spaced p.pieces := by
  have hkind : (Piece.sql p.kind.sql).isSound = true := by cases p.kind <;> decide
  have hhead : Spaced [.sql " ", .sql p.kind.sql, .sql " ", .name p.table.name] :=
    .cons (by decide) (by decide) (.cons_append hkind
      (.cons (by decide) (by decide) (.singleton rfl)) (startsApart_cons (by decide)))
  rw [JoinPart.pieces]
  split
  · exact hhead.append (.cons (by decide) (by decide) (spaced_conditionPieces h))
      (startsApart_cons (by decide))
  · exact hhead.append .nil startsApart_nil

theorem startsApart_partPieces (p : JoinPart) : StartsApart p.pieces := startsApart_cons (by decide)

theorem spaced_joinPieces {j : Join} (h : j.isRawFree = true) : Spaced j.pieces := by
  have hparts (ps : List JoinPart) (hps : ∀ p ∈ ps, p.isRawFree = true) :
      Spaced (ps.flatMap JoinPart.pieces) ∧ StartsApart (ps.flatMap JoinPart.pieces) := by
    induction ps with
    | nil => exact ⟨.nil, startsApart_nil⟩
    | cons p ps ih =>
      obtain ⟨hrest, hstart⟩ := ih fun q hq => hps q (List.mem_cons_of_mem _ hq)
      rw [List.flatMap_cons]
      exact ⟨(spaced_partPieces (hps p List.mem_cons_self)).append hrest hstart,
        startsApart_append (startsApart_partPieces p) hstart⟩
  obtain ⟨hspaced, hstart⟩ := hparts j.parts (List.all_eq_true.1 h)
  exact .cons_append rfl hspaced hstart

theorem spaced_fromPieces (t : Table) (j : Join) : Spaced (fromPieces t j) := by
  rw [fromPieces]
  split
  · exact .nil
  · refine .cons (by decide) (by decide) (spaced_commas fun ps hps => ?_)
    obtain ⟨u, -, rfl⟩ := List.mem_map.1 hps
    exact .singleton rfl

theorem startsApart_fromPieces (t : Table) (j : Join) : StartsApart (fromPieces t j) := by
  rw [fromPieces]
  split
  · exact startsApart_nil
  · exact startsApart_cons (by decide)

theorem spaced_joinedWherePieces {j : Join} {filter : Option Expr} (hj : j.isRawFree = true)
    (hf : filter.all Expr.isRawFree = true) : Spaced (joinedWherePieces j filter) := by
  unfold joinedWherePieces
  split
  · exact spaced_wherePieces hf
  · have hconditions : Spaced (separated " AND " (joinConditions j)) := by
      refine spaced_ands fun ps hps => ?_
      obtain ⟨p, hp, rfl⟩ := List.mem_map.1 hps
      exact spaced_conditionPieces (List.all_eq_true.1 hj p (List.mem_of_mem_filter hp))
    cases filter with
    | none => exact (Spaced.cons (by decide) (by decide) hconditions).append .nil startsApart_nil
    | some e =>
      exact (Spaced.cons (by decide) (by decide) hconditions).append
        (.cons (by decide) (by decide) (spaced_conjunctPieces hf)) (startsApart_cons (by decide))

theorem startsApart_joinedWherePieces (j : Join) (filter : Option Expr) :
    StartsApart (joinedWherePieces j filter) := by
  unfold joinedWherePieces
  split
  · exact startsApart_wherePieces filter
  · exact startsApart_cons (by decide)

theorem spaced_mergeConditions {p : JoinPart} (h : p.isRawFree = true) :
    Spaced (mergeConditions p) := by
  rw [mergeConditions]
  split
  · exact spaced_conditionPieces h
  · exact .singleton (by decide)

/-! ### Views -/

theorem spaced_selectPieces (n : Nat) {a : Assignment} (h : a.isRawFree = true) :
    Spaced (selectPieces n a) := by
  have hcolumn : Spaced (Piece.qualified a.column ++ [.sql " ", aliasPiece n]) :=
    (spaced_qualified a.column).append
      (.cons (by decide) (by decide) (.singleton (isSound_aliasPiece n)))
      (startsApart_cons (by decide))
  obtain ⟨c, v | e⟩ := a
  · exact hcolumn.append .nil startsApart_nil
  · exact hcolumn.append (.cons (by decide) (by decide) ((Expr.spaced_pieces e h).append
      (.cons (by decide) (by decide) (.singleton (isSound_aliasPiece (n + 1))))
      (startsApart_cons (by decide)))) (startsApart_cons (by decide))

theorem spaced_viewSetPieces (n : Nat) {a : Assignment} (h : a.isRawFree = true) :
    Spaced (viewSetPieces n a) := by
  have hset {ps : List Piece} (hps : Spaced ps) :
      Spaced ([.sql "x.", aliasPiece n, .sql " = "] ++ ps) :=
    .cons (by decide) (by decide) (.cons_append (isSound_aliasPiece n)
      (.cons (by decide) (by decide) hps) (startsApart_cons (by decide)))
  obtain ⟨c, v | e⟩ := a
  · exact hset (spaced_valuePieces h)
  · exact hset (.cons (by decide) (by decide) (.singleton (isSound_aliasPiece (n + 1))))

/-- What is done to each assignment does not depend on its number. -/
theorem spaced_aliased {f : Nat → Assignment → List Piece} {as : List Assignment}
    (h : ∀ n, ∀ a ∈ as, Spaced (f n a)) (n : Nat) :
    Spaced (separated ", " ((aliased n as).map fun c => f c.1 c.2)) := by
  refine spaced_commas fun ps hps => ?_
  obtain ⟨c, hc, rfl⟩ := List.mem_map.1 hps
  exact h c.1 c.2 (snd_mem_of_mem_aliased hc)

/-! ### Statements -/

theorem spaced_tablePieces (t : Table) (limit : Option (LimitStyle × Nat)) {as : List Assignment}
    {filter : Option Expr} (ha : ∀ a ∈ as, a.isRawFree = true)
    (hf : filter.all Expr.isRawFree = true) : Spaced (tablePieces t limit as filter) := by
  have hset := spaced_setPieces false ha
  have hwhere := spaced_wherePieces hf
  have body : Spaced (.name t.name :: setPieces false as ++ wherePieces filter) :=
    .cons_append rfl (hset.append hwhere (startsApart_wherePieces filter))
      (startsApart_append (startsApart_setPieces false as) (startsApart_wherePieces filter))
  obtain _ | ⟨_ | _ | _, n⟩ := limit
  · exact .cons (by decide) (by decide) body
  · exact (Spaced.cons (by decide) (by decide) body).append
      (.cons (by decide) (by decide) (.singleton (isSound_numberPiece n)))
      (startsApart_cons (by decide))
  · have := spaced_topPieces_append (some n) body
    exact .cons (by decide) (by decide) this
  · have head : Spaced (.sql "UPDATE " :: .name t.name :: setPieces false as) :=
      .cons (by decide) (by decide) (.cons_append rfl hset (startsApart_setPieces false as))
    cases filter with
    | none => exact head.append (spaced_rownumClause (some n)) (startsApart_rownumClause (some n))
    | some e =>
      refine head.append (.cons (by decide) (by decide) ?_) (startsApart_cons (by decide))
      exact (spaced_conjunctPieces hf).append
        (.cons (by decide) (by decide) (spaced_rownumPieces n)) (startsApart_cons (by decide))

/-- A statement whose form is decided keeps its pieces apart. -/
theorem spaced_planPieces {form : Form} {as : List Assignment} {filter : Option Expr}
    (hform : form.isRawFree = true) (ha : ∀ a ∈ as, a.isRawFree = true)
    (hf : filter.all Expr.isRawFree = true) : Spaced (Plan.pieces ⟨form, as, filter⟩) := by
  have hset (qualified : Bool) := spaced_setPieces qualified ha
  have hwhere := spaced_wherePieces hf
  cases form with
  | table t limit => exact spaced_tablePieces t limit ha hf
  | list j =>
    have head : Spaced (.sql "UPDATE " :: j.pieces ++ setPieces true as) :=
      (Spaced.cons (by decide) (by decide) (spaced_joinPieces hform)).append (hset true)
        (startsApart_setPieces true as)
    exact head.append hwhere (startsApart_wherePieces filter)
  | «from» t j qualified top =>
    have named : Spaced (.name t.name :: setPieces qualified as) :=
      .cons_append rfl (hset qualified) (startsApart_setPieces qualified as)
    have head : Spaced (.sql "UPDATE " :: (topPieces top
        ++ .name t.name :: setPieces qualified as)) :=
      .cons (by decide) (by decide) (spaced_topPieces_append top named)
    exact (head.append (spaced_fromPieces t j) (startsApart_fromPieces t j)).append
      (spaced_joinedWherePieces hform hf) (startsApart_joinedWherePieces j filter)
  | merge t source part =>
    have head : Spaced ([.sql "MERGE INTO ", .name t.name, .sql " USING ", .name source.name,
        .sql " ON "] ++ mergeConditions part) :=
      .cons (by decide) (by decide) (.cons_append rfl (.cons (by decide) (by decide)
        (.cons_append rfl (.cons (by decide) (by decide) (spaced_mergeConditions hform))
          (startsApart_cons (by decide)))) (startsApart_cons (by decide)))
    have matched : Spaced (.sql " WHEN MATCHED THEN UPDATE" :: setPieces true as) :=
      .cons_append (by decide) (hset true) (startsApart_setPieces true as)
    exact (head.append matched (startsApart_cons (by decide))).append hwhere
      (startsApart_wherePieces filter)
  | view j limit =>
    have hselect := spaced_aliased (f := selectPieces)
      (fun n a h => spaced_selectPieces n (ha a h)) 0
    have hviewSet := spaced_aliased (f := viewSetPieces)
      (fun n a h => spaced_viewSetPieces n (ha a h)) 0
    have columns : Spaced (.sql "UPDATE (SELECT "
        :: separated ", " ((aliased 0 as).map fun c => selectPieces c.1 c.2)) :=
      .cons (by decide) (by decide) hselect
    have joined := columns.append
      (.cons (by decide) (by decide) (spaced_joinPieces hform) : Spaced (.sql " FROM " :: j.pieces))
      (startsApart_cons (by decide))
    have filtered := joined.append hwhere (startsApart_wherePieces filter)
    have set := filtered.append (.cons (by decide) (by decide) hviewSet :
      Spaced (.sql ") x SET " :: separated ", "
        ((aliased 0 as).map fun c => viewSetPieces c.1 c.2))) (startsApart_cons (by decide))
    exact set.append (spaced_rownumClause limit) (startsApart_rownumClause limit)

/-- A rendered statement without raw fragments keeps its pieces apart. -/
theorem spaced_render {ctx : Context} {u : Update} {s : Rendered} (h : u.render ctx = .ok s)
    (hraw : u.isRawFree = true) : Spaced s.pieces := by
  obtain ⟨-, form, hform, rfl⟩ := render_eq_ok h
  rw [Update.isRawFree, Bool.and_eq_true, Bool.and_eq_true] at hraw
  obtain ⟨⟨ht, ha⟩, hf⟩ := hraw
  exact spaced_planPieces (isRawFree_of_planTarget hform ht) (List.all_eq_true.1 ha) hf

end SqlUpdate
