import Mathlib.Data.List.Infix
import SqlUpdate.Execution
import SqlUpdate.Proofs.Lexical.Pieces
import SqlUpdate.Proofs.Lexical.Clauses
import SqlUpdate.Proofs.Statement.Wording
/-!
# Which outer joins are kept

A left, right or full join keeps rows that an inner join drops. An UPDATE of a join either writes
all joins with their keywords, or merges one table into another and reports that this is an inner
join, or puts the other tables behind `FROM` and the conditions behind `WHERE`. In the last form
there are commas in place of the keywords, and nothing is reported.

* `JoinsTable` — a text joins the table of a part by the keywords of the part.
* `written_or_reported` — outer joins are written or reported in all forms but the last.
* `joinFree_from` — no piece of that form has the letter `J`, which all keywords of joins have.
* `outerJoins_kept_iff` — an outer join is neither written nor reported exactly in the dialects
  with that form.
-/

namespace SqlUpdate

/-- Whether rows without a match are kept. -/
def JoinKind.isOuter : JoinKind → Bool
  | left | right | full => true
  | inner | cross => false

/-- How the table of a part is joined: the keywords and the table. -/
def JoinPart.headPieces (p : JoinPart) : List Piece :=
  [.sql " ", .sql p.kind.sql, .sql " ", .name p.table.name]

/-- A text joins the table of a part by the keywords of the part. -/
def JoinsTable (d : Dialect) (sql : String) (p : JoinPart) : Prop :=
  ∃ before after, (after = [] ∨ StartsWithBreak after) ∧ scan d.quote sql.toList =
    some (before ++ p.headPieces.flatMap (Piece.lexemes d .prepared) ++ after)

/-! ### Forms that keep or report the joins -/

theorem headPieces_infix_joinPieces {j : Join} {p : JoinPart} (hp : p ∈ j.parts) :
    p.headPieces <:+: j.pieces := by
  have hpart : p.headPieces <:+: p.pieces := (List.prefix_append _ _).isInfix
  have hparts : p.pieces <:+: j.parts.flatMap JoinPart.pieces :=
    List.infix_of_mem_flatten (List.mem_map_of_mem hp)
  exact (hpart.trans hparts).trans (List.suffix_cons _ _).isInfix

/-- An outer join is written or reported unless the other tables stand behind `FROM`. -/
theorem written_or_reported {d : Dialect} {j : Join} {as : List Assignment} {limit : Option Nat}
    {form : Form} (hform : JoinPlanned d j as limit form) (filter : Option Expr)
    (hd : ∀ qualified top, d.joinStyle ≠ .from qualified top) {p : JoinPart} (hp : p ∈ j.parts)
    (houter : p.kind.isOuter = true) :
    p.headPieces <:+: Plan.pieces ⟨form, as, filter⟩ ∨ .joinedInner p.kind ∈ form.warnings := by
  have hjoin := headPieces_infix_joinPieces hp
  cases hform with
  | list =>
    refine .inl (hjoin.trans ⟨[.sql "UPDATE "], setPieces true as ++ wherePieces filter, ?_⟩)
    simp [Plan.pieces]
  | «from» hs => exact absurd hs (hd _ _)
  | merge _ _ _ hparts =>
    rw [hparts, List.mem_singleton] at hp
    subst hp
    refine .inr ?_
    have hne : p.kind ≠ .inner := fun h => by rw [h] at houter; cases houter
    rw [Form.warnings, if_neg hne]
    exact List.mem_singleton.2 rfl
  | view =>
    refine .inl (hjoin.trans ⟨.sql "UPDATE (SELECT "
      :: separated ", " ((aliased 0 as).map fun c => selectPieces c.1 c.2) ++ [.sql " FROM "],
      wherePieces filter ++ .sql ") x SET "
      :: separated ", " ((aliased 0 as).map fun c => viewSetPieces c.1 c.2) ++ rownumClause limit,
      ?_⟩)
    simp [Plan.pieces]

/-! ### The form with the other tables behind `FROM` -/

/-- Whether a piece is no keyword of a join: all of these have a `J`. -/
def Piece.joinFree : Piece → Bool
  | .sql s => !s.toList.contains 'J'
  | _ => true

theorem wording_joinFree : Wording fun p => p.joinFree = true where
  name _ := rfl
  argument _ := rfl
  raw _ := rfl
  text := by decide

theorem joinFree_numberPiece (n : Nat) : (numberPiece n).joinFree = true := by
  have hdigits : 'J' ∉ Decimal.digits n := fun h =>
    absurd (Decimal.isDigit_of_mem_digits h) (by decide)
  rw [numberPiece, Piece.joinFree, Decimal.natural, String.toList_ofList, Bool.not_eq_true',
    Bool.eq_false_iff]
  exact fun h => hdigits (List.contains_iff_mem.1 h)

/-- Behind `FROM` there are no keywords of a join, and neither are there any elsewhere. -/
theorem joinFree_from (t : Table) (j : Join) (qualified : Bool) (top : Option Nat)
    (as : List Assignment) (filter : Option Expr) :
    ∀ p ∈ Plan.pieces ⟨.from t j qualified top, as, filter⟩, p.joinFree = true := by
  have h := wording_joinFree
  rw [Plan.pieces, List.forall_mem_append, List.forall_mem_append, List.forall_mem_append,
    List.forall_mem_cons, List.forall_mem_cons]
  exact ⟨⟨⟨⟨rfl, h.topPieces joinFree_numberPiece top⟩, rfl, h.setPieces qualified as⟩,
    h.fromPieces rfl t j⟩, h.joinedWherePieces (fun _ => rfl) j filter⟩

theorem sql_kind_not_joinFree (p : JoinPart) : 'J' ∈ p.kind.sql.toList := by
  cases p.kind <;> decide

/-- Without the keywords of a join no part is joined. -/
theorem headPieces_not_infix_of_joinFree {ps : List Piece} (h : ∀ q ∈ ps, q.joinFree = true)
    (p : JoinPart) : ¬ p.headPieces <:+: ps := by
  intro hhead
  have hfree := h (.sql p.kind.sql) (hhead.subset (by simp [JoinPart.headPieces]))
  rw [Piece.joinFree, List.contains_iff_mem.2 (sql_kind_not_joinFree p)] at hfree
  cases hfree

/-! ### Texts -/

/-- A join is seen in the text of pieces that are kept apart. -/
theorem joinsTable_of_isInfix (d : Dialect) {ps : List Piece} (hspaced : Spaced ps) {p : JoinPart}
    (h : p.headPieces <:+: ps) : JoinsTable d (textOf d .prepared ps) p := by
  obtain ⟨before, after, rfl⟩ := h
  refine ⟨before.flatMap (Piece.lexemes d .prepared), after.flatMap (Piece.lexemes d .prepared),
    ?_, by rw [scan_textOf d .prepared hspaced, List.flatMap_append, List.flatMap_append]⟩
  cases after with
  | nil => exact .inl rfl
  | cons q after =>
    -- the name of the table does not end apart, so what follows it starts apart
    have hlast : (before ++ p.headPieces).getLast? = some (.name p.table.name) := by
      simp [JoinPart.headPieces]
    have hstart : q.startsApart = true :=
      ((List.isChain_append.1 hspaced.apart).2.2 _ hlast q rfl).resolve_left nofun
    obtain ⟨c, hc, hhead⟩ := startsWithBreak_lexemes d .prepared hstart
    exact .inr ⟨c, hc, by rw [List.flatMap_cons, List.head?_append, hhead]; rfl⟩

/-- Where no `J` is bare, nothing is joined. -/
theorem not_joinsTable_of_scan {d : Dialect} {sql : String} {ls : List Lexeme}
    (hscan : scan d.quote sql.toList = some ls) (h : .bare 'J' ∉ ls) (p : JoinPart) :
    ¬ JoinsTable d sql p := by
  rintro ⟨before, after, -, hjoin⟩
  refine h ?_
  have hkeywords : .bare 'J' ∈ p.headPieces.flatMap (Piece.lexemes d .prepared) :=
    List.mem_flatMap.2 ⟨.sql p.kind.sql, by simp [JoinPart.headPieces],
      List.mem_map_of_mem (sql_kind_not_joinFree p)⟩
  rw [Option.some.inj (hscan.symm.trans hjoin)]
  exact List.mem_append_left _ (List.mem_append_right _ hkeywords)

theorem not_mem_bareLiteral {cs : List Char} (h : Value.BareLiteral cs) : 'J' ∉ cs := by
  have hdigits {ds : List Char} (hds : IsDigits ds) : 'J' ∉ ds := fun hmem =>
    absurd (hds.isDigit _ hmem) (by decide)
  cases h with
  | null => decide
  | true => decide
  | false => decide
  | nan => decide
  | @number negative cs hcs =>
    have hunsigned : 'J' ∉ cs := by
      cases hcs with
      | whole hds => exact hdigits hds
      | decimal hds hes => simp [hdigits hds, hdigits hes]
      | infinity => decide
    cases negative with
    | true => simpa [signed] using hunsigned
    | false => exact hunsigned

/-- No literal has a bare `J`. -/
theorem bare_not_mem_literal (v : Value) : .bare 'J' ∉ v.lexemes := by
  have hbare (hv : v.isQuoted = false) : .bare 'J' ∉ v.literal.toList.map Lexeme.bare := by
    intro hmem
    obtain ⟨c, hc, heq⟩ := List.mem_map.1 hmem
    cases heq
    exact not_mem_bareLiteral (Value.bareLiteral_of_not_quoted hv) hc
  cases v with
  | null => exact hbare rfl
  | bool b => exact hbare rfl
  | int i => exact hbare rfl
  | float x => exact hbare rfl
  | text s => simp [Value.lexemes]
  | blob bytes => simp [Value.lexemes]

theorem bare_not_mem_lexemes (d : Dialect) {p : Piece} (hsound : p.isSound = true)
    (hfree : p.joinFree = true) : .bare 'J' ∉ p.lexemes d .prepared := by
  cases p with
  | sql s =>
    intro hmem
    obtain ⟨c, hc, heq⟩ := List.mem_map.1 hmem
    cases heq
    rw [Piece.joinFree, List.contains_iff_mem.2 hc] at hfree
    cases hfree
  | name s =>
    rw [Piece.lexemes]
    split
    · rename_i hplain
      intro hmem
      obtain ⟨c, hc, heq⟩ := List.mem_map.1 hmem
      cases heq
      exact absurd ((isPlainName_chars hplain).2 _ hc) (by decide)
    · simp
  | raw s => cases hsound
  | argument a => simp [Piece.lexemes]
  | literal v => exact bare_not_mem_literal v

/-- Without the keywords of a join no part is joined in the text. -/
theorem not_joinsTable (d : Dialect) {ps : List Piece} (hspaced : Spaced ps)
    (hfree : ∀ q ∈ ps, q.joinFree = true) (p : JoinPart) :
    ¬ JoinsTable d (textOf d .prepared ps) p := by
  refine not_joinsTable_of_scan (scan_textOf d .prepared hspaced) (fun hmem => ?_) p
  obtain ⟨q, hq, hmem⟩ := List.mem_flatMap.1 hmem
  exact bare_not_mem_lexemes d (hspaced.sound q hq) (hfree q hq) hmem

/-! ### Statements on a join -/

theorem joinStyle_eq_from_iff (d : Dialect) :
    (∃ qualified top, d.joinStyle = .from qualified top) ↔
      d ∈ [.postgresql, .sqlite, .sqlserver] := by
  cases d <;> simp [Dialect.joinStyle]

/-- What is reported of a compiled statement. -/
theorem log_prepare {ctx : Context} {u : Update} {s : Rendered} (h : u.render ctx = .ok s) :
    (Session.start.prepare ctx u).2.log
      = s.warnings ++ [.compiled s.dialect (s.text .prepared)] := by
  rw [Session.prepare, h]
  rfl

theorem joinedInner_mem_log_iff {ctx : Context} {u : Update} {s : Rendered}
    (h : u.render ctx = .ok s) (kind : JoinKind) :
    .joinedInner kind ∈ (Session.start.prepare ctx u).2.log ↔ .joinedInner kind ∈ s.warnings := by
  simp [log_prepare h]

/-- A rendered join keeps or reports its outer joins, unless the other tables are behind `FROM`. -/
theorem rendered_join_cases {ctx : Context} {u : Update} {j : Join} {s : Rendered}
    (htarget : u.target = .join j) (h : u.render ctx = .ok s) :
    s.dialect = ctx.joinDialect ∧
      ((ctx.joinDialect ∉ [.postgresql, .sqlite, .sqlserver] ∧
          ∀ p ∈ j.parts, p.kind.isOuter = true →
            p.headPieces <:+: s.pieces ∨ .joinedInner p.kind ∈ s.warnings) ∨
        (ctx.joinDialect ∈ [.postgresql, .sqlite, .sqlserver] ∧
          (∀ p ∈ s.pieces, p.joinFree = true) ∧ s.warnings = [])) := by
  obtain ⟨form, hplanned, rfl⟩ := render_join_eq_ok htarget h
  refine ⟨rfl, ?_⟩
  by_cases hfrom : ctx.joinDialect ∈ [.postgresql, .sqlite, .sqlserver]
  · refine .inr ⟨hfrom, ?_⟩
    obtain ⟨q, t, hstyle⟩ := (joinStyle_eq_from_iff _).2 hfrom
    cases hplanned with
    | «from» => exact ⟨joinFree_from _ _ _ _ _ _, rfl⟩
    | list hother => cases hstyle.symm.trans hother
    | merge hother => cases hstyle.symm.trans hother
    | view hother => cases hstyle.symm.trans hother
  · refine .inl ⟨hfrom, fun p hp houter => ?_⟩
    exact written_or_reported hplanned u.filter
      (fun q t hstyle => hfrom ((joinStyle_eq_from_iff _).1 ⟨q, t, hstyle⟩)) hp houter

/-- **Outer joins are dropped behind `FROM`.** Let a statement on a join compile. Each of its outer
joins is written with its keywords, or reported as an inner join, exactly if the dialect does not
put the other tables behind `FROM`. Without raw fragments the same holds of what can be read in the
text. Where the other tables stand behind `FROM`, nothing is reported but the text itself. -/
theorem outerJoins_kept_iff {ctx : Context} {u : Update} {j : Join} {sql : String}
    (htarget : u.target = .join j) (h : u.compile ctx = .ok sql) :
    let log := (Session.start.prepare ctx u).2.log
    let behindFrom := ctx.joinDialect ∈ [.postgresql, .sqlite, .sqlserver]
    (∃ s, u.render ctx = .ok s ∧ s.text .prepared = sql ∧
      ∀ p ∈ j.parts, p.kind.isOuter = true →
        (p.headPieces <:+: s.pieces ∨ .joinedInner p.kind ∈ log ↔ ¬ behindFrom)) ∧
    (u.isRawFree = true → ∀ p ∈ j.parts, p.kind.isOuter = true →
      (JoinsTable ctx.joinDialect sql p ∨ .joinedInner p.kind ∈ log ↔ ¬ behindFrom)) ∧
    (behindFrom → log = [.compiled ctx.joinDialect sql]) := by
  obtain ⟨s, hs, rfl⟩ := compile_eq_ok h
  intro log behindFrom
  have hlog (p : JoinPart) : .joinedInner p.kind ∈ log ↔ .joinedInner p.kind ∈ s.warnings :=
    joinedInner_mem_log_iff hs p.kind
  obtain ⟨hdialect, ⟨hfrom, hkept⟩ | ⟨hfrom, hfree, hsilent⟩⟩ := rendered_join_cases htarget hs
  · refine ⟨⟨s, hs, rfl, fun p hp houter => ?_⟩, fun hraw p hp houter => ?_, (absurd · hfrom)⟩
    · rw [hlog]
      exact iff_of_true (hkept p hp houter) hfrom
    · rw [hlog, ← hdialect]
      exact iff_of_true ((hkept p hp houter).imp_left
        (joinsTable_of_isInfix s.dialect (spaced_render hs hraw))) hfrom
  · have hunreported (p : JoinPart) : .joinedInner p.kind ∉ log := by
      rw [hlog, hsilent]
      exact List.not_mem_nil
    refine ⟨⟨s, hs, rfl, fun p hp houter => ?_⟩, fun hraw p hp houter => ?_, fun _ => ?_⟩
    · exact iff_of_false (not_or.2 ⟨headPieces_not_infix_of_joinFree hfree p, hunreported p⟩)
        (not_not.2 hfrom)
    · rw [← hdialect]
      exact iff_of_false (not_or.2
        ⟨not_joinsTable s.dialect (spaced_render hs hraw) hfree p, hunreported p⟩)
        (not_not.2 hfrom)
    · show (Session.start.prepare ctx u).2.log = _
      rw [log_prepare hs, hsilent, hdialect]
      rfl

/-- Users without a city are kept by the join, and get a name. -/
def leftJoinExample : Update where
  target := .join ((Join.ofTable (.empty "users")).on .left (.empty "cities")
    ⟨"users", "city_id", .integer⟩ ⟨"cities", "city_id", .integer⟩)
  assignments := [⟨⟨"users", "name", .varchar⟩, .value (.text "x")⟩]
  filter := none
  limit := none

/-- Where all tables are updated the join is written. -/
theorem outerJoins_kept_leftJoinExample :
    ∃ sql p, leftJoinExample.compile (.of .mysql) = .ok sql ∧ p.kind = .left ∧
      (JoinsTable .mysql sql p ∨
        .joinedInner .left ∈ (Session.start.prepare (.of .mysql) leftJoinExample).2.log) := by
  have hkept := (@outerJoins_kept_iff (.of .mysql) leftJoinExample _ _ rfl rfl).2.1 rfl
  exact ⟨_, _, rfl, rfl, (hkept _ List.mem_cons_self rfl).2 (by decide)⟩

/-- Where the other table stands behind `FROM`, users without a city are dropped silently. -/
theorem leftJoinExample_behindFrom :
    let sql := "UPDATE users SET name = ? FROM cities WHERE users.city_id = cities.city_id"
    leftJoinExample.compile (.of .postgresql) = .ok sql ∧
      ∃ j, leftJoinExample.target = .join j ∧ ∃ p ∈ j.parts, p.kind.isOuter = true ∧
        ¬ (JoinsTable .postgresql sql p ∨ ∃ kind, .joinedInner kind ∈
          (Session.start.prepare (.of .postgresql) leftJoinExample).2.log) := by
  refine ⟨rfl, _, rfl, _, List.mem_cons_self, rfl, not_or.2 ⟨?_, ?_⟩⟩
  · exact not_joinsTable_of_scan rfl (by decide) _
  · rintro ⟨kind, hkind⟩
    cases List.mem_singleton.1 hkind

end SqlUpdate
