import SqlUpdate.Proofs.Reading.Conjunctions
/-!
# Every row must meet all conditions

* `Contributes` — what a clause adds to the conditions of a statement, whatever follows it.
* `contributes_where`, `contributes_joinPieces`, ... — one lemma for each clause.
* `Update.requirements` — what a statement requires of a row: the conditions of its join, its own
  condition, and where `ROWNUM` limits the rows, that limit.
* `readRowFilter_compile` — this is what the text of a statement is read as, in every dialect.
-/

namespace SqlUpdate

/-! ### Clauses -/

/-- What pieces add to the conditions of a statement, if a condition can end behind them. -/
def Contributes (ps : List Piece) (cs : List Condition) : Prop :=
  ∀ us, Ends us → readClauses (tokensOf .prepared ps ++ us) = (readClauses us).map (cs ++ ·)

/-- Whether a condition can end in front of pieces. -/
def EndsBefore (ps : List Piece) : Prop := ∀ us, Ends us → Ends (tokensOf .prepared ps ++ us)

theorem endsBefore_nil : EndsBefore [] := fun _ h => h

theorem endsBefore_sql {s : String} {t : Token} {ts : List Token}
    (h : tokens (s.toList.map .bare) = t :: ts) (ht : t.endsCondition = true) (ps : List Piece) :
    EndsBefore (.sql s :: ps) := by
  intro us _
  have htokens : Piece.tokens .prepared (.sql s) = t :: ts := h
  rw [tokensOf_cons, htokens]
  exact ht

theorem endsBefore_append {ps qs : List Piece} (hp : EndsBefore ps) (hq : EndsBefore qs) :
    EndsBefore (ps ++ qs) := by
  intro us hus
  rw [tokensOf_append, List.append_assoc]
  exact hp _ (hq us hus)

theorem contributes_silent {ps : List Piece} (h : Silent .prepared ps) : Contributes ps [] := by
  intro us _
  rw [readClauses_quiet h.quiet]
  exact Option.map_id'.symm

/-- What stands in front of a clause without a condition of its own. -/
theorem Contributes.behind {ps qs : List Piece} {cs : List Condition} (hq : Contributes qs cs)
    (hp : Silent .prepared ps) : Contributes (ps ++ qs) cs := by
  intro us hus
  rw [tokensOf_append, List.append_assoc, readClauses_quiet hp.quiet]
  exact hq us hus

/-- One clause behind another. -/
theorem Contributes.append {ps qs : List Piece} {cs ds : List Condition} (hp : Contributes ps cs)
    (hq : Contributes qs ds) (hends : EndsBefore qs) : Contributes (ps ++ qs) (cs ++ ds) := by
  intro us hus
  rw [tokensOf_append, List.append_assoc, hp _ (hends us hus), hq us hus, Option.map_map]
  exact congrArg (Option.map · _) (funext fun es => (List.append_assoc cs ds es).symm)

/-- A clause in front of pieces without conditions. -/
theorem Contributes.before {ps qs : List Piece} {cs : List Condition} (hp : Contributes ps cs)
    (hq : Silent .prepared qs) (hends : EndsBefore qs) : Contributes (ps ++ qs) cs := by
  rw [← List.append_nil cs]
  exact hp.append (contributes_silent hq) hends

/-- A condition behind its word. -/
theorem contributes_clause {word : String} {t : Token}
    (hword : tokens (word.toList.map .bare) = [t]) (ht : t.opensCondition = true) {ps : List Piece}
    {c : Condition} (hreads : Reads 1 (tokensOf .prepared ps) c) (hs : Silent .prepared ps) :
    Contributes (.sql word :: ps) c.requirements := by
  intro us hus
  have htokens : Piece.tokens .prepared (.sql word) = [t] := hword
  rw [tokensOf_cons, htokens]
  exact readClauses_clause ht hs.quiet hreads hus

theorem contributes_conjunction {word : String} {t : Token}
    (hword : tokens (word.toList.map .bare) = [t]) (ht : t.opensCondition = true) {ps : List Piece}
    {cs : List Condition} (h : Conjunction ps cs) : Contributes (.sql word :: ps) cs := by
  obtain ⟨c, rfl, -, hreads, -⟩ := h.reads
  exact contributes_clause hword ht (hreads.weaken (by decide)) h.silent

/-! ### The condition on the rows -/

/-- What the condition on the rows requires. -/
def filterRequirements (filter : Option Expr) : List Condition :=
  (filter.map fun e => (e.condition .prepared).conjuncts).getD []

theorem tokens_where : tokens (" WHERE ".toList.map .bare) = [.keyword "WHERE".toList] := by decide

theorem contributes_where {filter : Option Expr} (h : filter.all Expr.isPredicate = true) :
    Contributes (wherePieces filter) (filterRequirements filter) := by
  cases filter with
  | none => exact contributes_silent silent_nil
  | some e =>
    have hpredicate : ReadsPredicate .prepared e := reads_predicate h
    have hclause := contributes_clause tokens_where rfl hpredicate.condition
      (silent_pieces (Expr.isRawFree_of_isPredicate h))
    rw [requirements_condition .prepared h] at hclause
    exact hclause

theorem endsBefore_where (filter : Option Expr) : EndsBefore (wherePieces filter) := by
  cases filter with
  | none => exact endsBefore_nil
  | some e => exact endsBefore_sql tokens_where rfl _

/-- What a limit by `ROWNUM` requires. -/
def rownumRequirements (limit : Option Nat) : List Condition :=
  (limit.map rownumCondition).toList

theorem contributes_rownumClause (limit : Option Nat) :
    Contributes (rownumClause limit) (rownumRequirements limit) := by
  cases limit with
  | none => exact contributes_silent silent_nil
  | some n => exact contributes_conjunction tokens_where rfl (conjunction_rownum n)

theorem endsBefore_rownumClause (limit : Option Nat) : EndsBefore (rownumClause limit) := by
  cases limit with
  | none => exact endsBefore_nil
  | some n => exact endsBefore_sql tokens_where rfl _

theorem endsBefore_setPieces (qualified : Bool) (as : List Assignment) :
    EndsBefore (setPieces qualified as) := by
  have hset : tokens (" SET ".toList.map .bare) = [.keyword "SET".toList] := by decide
  exact endsBefore_sql hset rfl _

/-! ### Joins -/

theorem tokens_on : tokens (" ON ".toList.map .bare) = [.keyword "ON".toList] := by decide

theorem contributes_part {p : JoinPart} (h : p.hasPredicate = true) :
    Contributes p.pieces p.requirements := by
  have hkind : Quiet (tokens (p.kind.sql.toList.map .bare)) := by cases p.kind <;> decide
  have hhead : Silent .prepared [.sql " ", .sql p.kind.sql, .sql " ", .name p.table.name] :=
    silent_sql (by decide) (silent_sql hkind (silent_sql (by decide)
      (silent_cons (quiet_name _) silent_nil)))
  rw [JoinPart.pieces]
  refine Contributes.behind ?_ hhead
  cases hp : p.hasConditions with
  | true => exact contributes_conjunction tokens_on rfl (conjunction_part h hp)
  | false =>
    rw [requirements_of_no_conditions hp]
    exact contributes_silent silent_nil

theorem endsBefore_part (p : JoinPart) : EndsBefore p.pieces := by
  intro us _
  rw [JoinPart.pieces, tokensOf_append, List.append_assoc]
  cases p.kind <;> rfl

theorem contributes_parts {ps : List JoinPart} (h : ∀ p ∈ ps, p.hasPredicate = true) :
    Contributes (ps.flatMap JoinPart.pieces) (ps.flatMap JoinPart.requirements) ∧
      EndsBefore (ps.flatMap JoinPart.pieces) := by
  induction ps with
  | nil => exact ⟨contributes_silent silent_nil, endsBefore_nil⟩
  | cons p ps ih =>
    obtain ⟨hrest, hends⟩ := ih fun q hq => h q (List.mem_cons_of_mem _ hq)
    have hpart := contributes_part (h p List.mem_cons_self)
    rw [List.flatMap_cons, List.flatMap_cons]
    exact ⟨hpart.append hrest hends, endsBefore_append (endsBefore_part p) hends⟩

theorem contributes_joinPieces {j : Join} (h : j.hasPredicates = true) :
    Contributes j.pieces j.requirements := by
  have hlead : Silent .prepared [.name j.lead.name] := silent_cons (quiet_name _) silent_nil
  exact (contributes_parts (List.all_eq_true.1 h)).1.behind hlead

/-- The conditions of a join and the condition on the rows in one clause. -/
theorem contributes_joinedWhere {j : Join} {filter : Option Expr} (hj : j.hasPredicates = true)
    (hf : filter.all Expr.isPredicate = true) :
    Contributes (joinedWherePieces j filter) (j.requirements ++ filterRequirements filter) := by
  have hall := forall₂_joinConditions hj
  rw [Join.requirements, ← flatten_requirements]
  unfold joinedWherePieces
  split
  · rename_i hnil
    rw [hnil, List.forall₂_nil_left_iff] at hall
    rw [hall]
    exact contributes_where hf
  · rename_i hne
    have hconditions := conjunction_separated hall hne
    cases filter with
    | none =>
      have hclause := contributes_conjunction tokens_where rfl hconditions
      rw [filterRequirements, Option.map_none, Option.getD_none, List.append_nil]
      rw [List.append_nil]
      exact hclause
    | some e =>
      have hboth := hconditions.and (conjunction_filter hf)
      rw [List.cons_append]
      exact contributes_conjunction tokens_where rfl hboth

theorem contributes_merge {p : JoinPart} (h : p.hasPredicate = true) :
    Contributes (.sql " ON " :: mergeConditions p) p.requirements := by
  unfold mergeConditions
  cases hp : p.hasConditions with
  | true => exact contributes_conjunction tokens_on rfl (conjunction_part h hp)
  | false =>
    have htrue : tokensOf .prepared [.sql "TRUE"] = [.literal "TRUE".toList] := by decide
    have hreads : Reads 1 (tokensOf .prepared [.sql "TRUE"]) (.literal "TRUE".toList) := by
      rw [htrue]
      exact reads_literal 1 (.word _)
    rw [requirements_of_no_conditions hp]
    exact contributes_clause tokens_on rfl hreads (silent_sql (by decide) silent_nil)

/-! ### Statements -/

/-- What a relation requires. -/
def Target.requirements : Target → List Condition
  | .join j => j.requirements
  | _ => []

/-- What a statement requires of a row in a dialect: the conditions of its join, its own condition,
and its limit where that is a condition on `ROWNUM`. -/
def Update.requirements (d : Dialect) (u : Update) : List Condition :=
  u.target.requirements ++ filterRequirements u.filter
    ++ (if d = .oracle then rownumRequirements u.limit else [])

/-- Whether the constraints of a relation stand for truth values. -/
def Target.hasPredicates : Target → Bool
  | .join j => j.hasPredicates
  | _ => true

/-- Whether the conditions of a statement stand for truth values. What it assigns is free but for raw
fragments. -/
def Update.hasPredicates (u : Update) : Bool :=
  u.target.hasPredicates && u.assignments.all Assignment.isRawFree
    && u.filter.all Expr.isPredicate

section Forms

variable {as : List Assignment} {filter : Option Expr}

/-- An UPDATE of a table. -/
theorem contributes_tablePieces (t : Table) (limit : Option (LimitStyle × Nat))
    (ha : ∀ a ∈ as, a.isRawFree = true) (hf : filter.all Expr.isPredicate = true) :
    Contributes (tablePieces t limit as filter) (filterRequirements filter ++
      match limit with
      | some (.rownum, n) => [rownumCondition n]
      | _ => []) := by
  have hset := silent_setPieces false ha
  have hwhere := contributes_where hf
  have head : Silent .prepared (.sql "UPDATE " :: .name t.name :: setPieces false as) :=
    silent_sql (by decide) (silent_cons (quiet_name _) hset)
  obtain _ | ⟨_ | _ | _, n⟩ := limit
  · rw [List.append_nil]
    exact hwhere.behind head
  · have hlimit : tokens (" LIMIT ".toList.map .bare) = [.keyword "LIMIT".toList] := by decide
    have hnumber : Silent .prepared [.sql " LIMIT ", numberPiece n] :=
      silent_sql (by decide) (silent_cons (quiet_numberPiece n) silent_nil)
    rw [List.append_nil]
    exact (hwhere.behind head).before hnumber (endsBefore_sql hlimit rfl _)
  · have htop : Silent .prepared (.sql "UPDATE " :: (topPieces (some n)
        ++ .name t.name :: setPieces false as)) :=
      silent_sql (by decide) (silent_append (silent_topPieces _) (silent_cons (quiet_name _) hset))
    rw [List.append_nil]
    exact hwhere.behind htop
  · cases filter with
    | none => exact (contributes_rownumClause (some n)).behind head
    | some e =>
      have hboth := (conjunction_filter hf).and (conjunction_rownum n)
      exact (contributes_conjunction tokens_where rfl hboth).behind head

/-- An UPDATE of all tables of a join. -/
theorem contributes_listPieces {j : Join} (ha : ∀ a ∈ as, a.isRawFree = true)
    (hj : j.hasPredicates = true) (hf : filter.all Expr.isPredicate = true) :
    Contributes (Plan.pieces ⟨.list j, as, filter⟩)
      (j.requirements ++ filterRequirements filter) := by
  have hupdate : Silent .prepared [.sql "UPDATE "] := silent_sql (by decide) silent_nil
  have hset := silent_setPieces true ha
  have htables : Contributes (.sql "UPDATE " :: j.pieces) j.requirements :=
    (contributes_joinPieces hj).behind hupdate
  exact (htables.before hset (endsBefore_setPieces true as)).append (contributes_where hf)
    (endsBefore_where filter)

/-- An UPDATE of one table of a join. -/
theorem contributes_otherTables {j : Join} (t : Table) (qualified : Bool) (top : Option Nat)
    (ha : ∀ a ∈ as, a.isRawFree = true) (hj : j.hasPredicates = true)
    (hf : filter.all Expr.isPredicate = true) :
    Contributes (Plan.pieces ⟨.from t j qualified top, as, filter⟩)
      (j.requirements ++ filterRequirements filter) := by
  have hhead : Silent .prepared (.sql "UPDATE " :: (topPieces top
      ++ .name t.name :: setPieces qualified as)) :=
    silent_sql (by decide) (silent_append (silent_topPieces top)
      (silent_cons (quiet_name _) (silent_setPieces qualified ha)))
  exact (contributes_joinedWhere hj hf).behind (silent_append hhead (silent_fromPieces t j))

/-- A merge of one table into another. -/
theorem contributes_mergePieces (t source : Table) {part : JoinPart}
    (ha : ∀ a ∈ as, a.isRawFree = true) (hp : part.hasPredicate = true)
    (hf : filter.all Expr.isPredicate = true) :
    Contributes (Plan.pieces ⟨.merge t source part, as, filter⟩)
      (part.requirements ++ filterRequirements filter) := by
  have htables : Silent .prepared [.sql "MERGE INTO ", .name t.name, .sql " USING ",
      .name source.name] :=
    silent_sql (by decide) (silent_cons (quiet_name _) (silent_sql (by decide)
      (silent_cons (quiet_name _) silent_nil)))
  have hmatched : Silent .prepared (.sql " WHEN MATCHED THEN UPDATE" :: setPieces true as) :=
    silent_sql (by decide) (silent_setPieces true ha)
  have hwords : tokens (" WHEN MATCHED THEN UPDATE".toList.map .bare) = .keyword "WHEN".toList ::
      ["MATCHED", "THEN", "UPDATE"].map fun s => .keyword s.toList := by decide
  have hon := (contributes_merge hp).behind htables
  exact (hon.before hmatched (endsBefore_sql hwords rfl _)).append (contributes_where hf)
    (endsBefore_where filter)

/-- An UPDATE of a query over a join. -/
theorem contributes_viewPieces {j : Join} (limit : Option Nat) (ha : ∀ a ∈ as, a.isRawFree = true)
    (hj : j.hasPredicates = true) (hf : filter.all Expr.isPredicate = true) :
    Contributes (Plan.pieces ⟨.view j limit, as, filter⟩)
      (j.requirements ++ filterRequirements filter ++ rownumRequirements limit) := by
  have hcolumns : Silent .prepared (.sql "UPDATE (SELECT "
      :: separated ", " ((aliased 0 as).map fun c => selectPieces c.1 c.2)) :=
    silent_sql (by decide) (silent_aliased fun n a h => silent_selectPieces n (ha a h))
  have hset : Silent .prepared (.sql ") x SET "
      :: separated ", " ((aliased 0 as).map fun c => viewSetPieces c.1 c.2)) :=
    silent_sql (by decide) (silent_aliased fun n a h => silent_viewSetPieces n (ha a h))
  have hclose : tokens (") x SET ".toList.map .bare)
      = [.closing, .name ['x'], .keyword "SET".toList] := by decide
  have hfrom : Silent .prepared [.sql " FROM "] := silent_sql (by decide) silent_nil
  have hjoined := ((contributes_joinPieces hj).behind hfrom).behind hcolumns
  have hfiltered := hjoined.append (contributes_where hf) (endsBefore_where filter)
  exact (hfiltered.before hset (endsBefore_sql hclose rfl _)).append
    (contributes_rownumClause limit) (endsBefore_rownumClause limit)

end Forms

theorem eq_oracle_of_joinStyle {d : Dialect} (h : d.joinStyle = .view) : d = .oracle := by
  cases d <;> first | rfl | cases h

theorem eq_oracle_of_limitStyle {d : Dialect} (h : d.limitStyle? = some .rownum) : d = .oracle := by
  cases d <;> first | rfl | cases h

/-- A planned statement contributes all conditions of its relation, its own one and its limit. -/
theorem contributes_planTarget {d : Dialect} {t : Target} {as : List Assignment}
    {limit : Option Nat} {form : Form} {filter : Option Expr}
    (h : planTarget d t as limit = .ok form) (ht : t.hasPredicates = true)
    (ha : ∀ a ∈ as, a.isRawFree = true) (hf : filter.all Expr.isPredicate = true) :
    Contributes (Plan.pieces ⟨form, as, filter⟩) (t.requirements ++ filterRequirements filter
      ++ (if d = .oracle then rownumRequirements limit else [])) := by
  obtain ⟨table, rfl, hform⟩ | ⟨j, rfl, hform⟩ := planTarget_eq_ok h
  · obtain ⟨rfl, rfl⟩ | ⟨n, style, rfl, hstyle, rfl⟩ := planTable_eq_ok hform
    · have htable := contributes_tablePieces table none ha hf
      rw [show rownumRequirements none = [] from rfl, ite_self]
      exact htable
    · have htable := contributes_tablePieces table (some (style, n)) ha hf
      cases style with
      | rownum =>
        rw [if_pos (eq_oracle_of_limitStyle hstyle)]
        exact htable
      | suffix =>
        rw [if_neg (by rintro rfl; cases hstyle)]
        exact htable
      | top =>
        rw [if_neg (by rintro rfl; cases hstyle)]
        exact htable
  · cases planJoin_eq_ok hform with
    | list hs =>
      rw [if_neg (by rintro rfl; cases hs), List.append_nil]
      exact contributes_listPieces ha ht hf
    | «from» hs =>
      rw [if_neg (by rintro rfl; cases hs), List.append_nil]
      exact contributes_otherTables _ _ _ ha ht hf
    | @merge target part hs _ _ hparts =>
      have hpart : part.hasPredicate = true :=
        List.all_eq_true.1 ht part (hparts ▸ List.mem_singleton.2 rfl)
      have honly : j.requirements = part.requirements := by
        rw [Join.requirements, hparts, List.flatMap_singleton]
      rw [if_neg (by rintro rfl; cases hs), List.append_nil]
      show Contributes _ (j.requirements ++ _)
      rw [honly]
      exact contributes_mergePieces _ _ ha hpart hf
    | view hs =>
      rw [if_pos (eq_oracle_of_joinStyle hs)]
      exact contributes_viewPieces limit ha ht hf

/-- Truth values hold no raw fragment, so that a statement with such conditions holds none. -/
theorem isRawFree_of_hasPredicates {u : Update} (h : u.hasPredicates = true) :
    u.isRawFree = true := by
  rw [Update.hasPredicates, Bool.and_eq_true, Bool.and_eq_true] at h
  obtain ⟨⟨ht, ha⟩, hf⟩ := h
  have htarget : u.target.isRawFree = true := by
    cases htarget : u.target with
    | join j =>
      rw [htarget] at ht
      exact List.all_eq_true.2 fun p hp => isRawFree_of_hasPredicate (List.all_eq_true.1 ht p hp)
    | _ => rfl
  have hfilter : u.filter.all Expr.isRawFree = true := by
    cases hu : u.filter with
    | none => rfl
    | some e =>
      rw [hu] at hf
      exact Expr.isRawFree_of_isPredicate hf
  rw [Update.isRawFree, htarget, ha, hfilter]
  rfl

/-- **Every row must meet all conditions.** The text of a statement whose conditions stand for truth
values is read as requiring just these conditions, each with its own values: those of all parts of
its join, its own one, and on Oracle its limit. -/
theorem readRowFilter_compile (ctx : Context) (u : Update) {sql : String}
    (hu : u.hasPredicates = true) (h : u.compile ctx = .ok sql) :
    readRowFilter (ctx.dialectOf u.target).quote (u.arguments ctx).flatten sql
      = some (u.requirements (ctx.dialectOf u.target)) := by
  obtain ⟨s, hs, rfl⟩ := compile_eq_ok h
  have hspaced := spaced_render hs (isRawFree_of_hasPredicates hu)
  have hargs : (u.arguments ctx).flatten = argumentsOf s.pieces := by
    rw [argumentsOf_render hs, flatten_arguments]
  obtain ⟨-, form, hform, rfl⟩ := render_eq_ok hs
  have htokens := bindArguments_tokens (ctx.dialectOf u.target) hspaced
  rw [Update.hasPredicates, Bool.and_eq_true, Bool.and_eq_true] at hu
  obtain ⟨⟨ht, ha⟩, hf⟩ := hu
  have hclauses := contributes_planTarget hform ht (List.all_eq_true.1 ha) hf [] rfl
  rw [List.append_nil] at hclauses
  rw [readRowFilter, hargs]
  show (scan _ (textOf _ _ _).toList).bind _ = _
  rw [scan_textOf _ .prepared hspaced, Option.bind_some, htokens, hclauses]
  exact congrArg some (List.append_nil _)

/-- A statement on a join with a constraint, a disjunction and a limit. -/
def filterExample : Update where
  target := .join ⟨.empty "users", [⟨.left, .empty "data",
    [(⟨"users", "id", .integer⟩, ⟨"data", "owner", .integer⟩)],
    some (Column.compare ⟨"data", "note", .text⟩ .ne (.text "it's"))⟩]⟩
  assignments := [⟨⟨"data", "flags", .integer⟩, .value (.int 5)⟩]
  filter := some ((Column.isNull ⟨"users", "age", .integer⟩).or
    (Column.compare ⟨"users", "age", .integer⟩ .lt (.int 18)))
  limit := some 3

/-- The disjunction stays one of four conditions. -/
theorem readRowFilter_filterExample :
    ∃ sql, filterExample.compile (.of .oracle) = .ok sql ∧
      readRowFilter '"' [⟨.integer, .int 18⟩, ⟨.integer, .int 5⟩] sql = some
        [.binary .eq (.column "users".toList "id".toList) (.column "data".toList "owner".toList),
          .binary .ne (.column "data".toList "note".toList) (.literal "'it''s'".toList),
          .chain .or [.isNull false (.column "users".toList "age".toList),
            .binary .lt (.column "users".toList "age".toList) (.argument ⟨.integer, .int 18⟩)],
          .binary .le .rownum (.literal "3".toList)] :=
  ⟨_, rfl, readRowFilter_compile (.of .oracle) filterExample rfl rfl⟩

end SqlUpdate
