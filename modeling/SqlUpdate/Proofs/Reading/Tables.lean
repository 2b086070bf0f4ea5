import SqlUpdate.Proofs.Lexical.Clauses
import SqlUpdate.Proofs.Reading.PieceTokens
import SqlUpdate.Proofs.Statement.Wording
/-!
# Reading the tables of a statement

A table is named behind `UPDATE`, `INTO`, `USING`, `JOIN` and `FROM`, and behind a comma that
follows another table. Names that stand elsewhere are those of columns.

* `Clause` — the words that tables are named behind.
* `TablePlace`, `readTables` — where a token stands, and the tables that tokens name in each clause.
* `outline`, `tablesOf` — the tokens of pieces, with raw fragments left closed, and the tables that
  they name.
* `tablesIn`, `tablesIn_textOf` — the same for a text.
* `tablesOf_listPieces`, `tablesOf_fromPieces`, `tablesOf_mergePieces`, `tablesOf_viewPieces` — the
  tables that a statement on a join names.
-/

namespace SqlUpdate

/-! ### Reading -/

/-- The clauses of a statement that name tables. -/
inductive Clause where
  | update
  | into
  | «using»
  | join
  | from
  deriving DecidableEq

namespace Clause

def word : Clause → String
  | update => "UPDATE"
  | into => "INTO"
  | «using» => "USING"
  | join => "JOIN"
  | «from» => "FROM"

def all : List Clause := [update, into, «using», join, «from»]

end Clause

namespace Token

/-- The clause that a token opens. -/
def clause? : Token → Option Clause
  | keyword cs => Clause.all.find? fun c => c.word.toList == cs
  | _ => none

/-- Whether a token can stand in front of a table: a number of rows does. -/
def delaysTable : Token → Bool
  | keyword cs => cs == "TOP".toList
  | opening | closing | number _ => true
  | _ => false

end Token

/-- Where a token stands. -/
inductive TablePlace where
  /-- Where no table is named. -/
  | elsewhere
  /-- In front of a table. -/
  | before (c : Clause)
  /-- Behind a table. -/
  | behind (c : Clause)
  deriving DecidableEq

namespace TablePlace

def isBefore : TablePlace → Bool
  | before _ => true
  | _ => false

/-- Where the next token stands. -/
def next (p : TablePlace) (t : Token) : TablePlace :=
  match t.clause? with
  | some c => before c
  | none =>
    match p, t with
    | before c, .name _ => behind c
    | before c, t => if t.delaysTable then before c else elsewhere
    | behind c, .comma => before c
    | _, _ => elsewhere

/-- The table that a token names, if it names one. -/
def table? : TablePlace → Token → Option (Clause × String)
  | before c, .name cs => some (c, String.ofList cs)
  | _, _ => none

end TablePlace

/-- The tables that tokens name, and where the token behind them stands. -/
def readTables : TablePlace → List Token → List (Clause × String) × TablePlace
  | p, [] => ([], p)
  | p, t :: ts =>
    let r := readTables (p.next t) ts
    ((p.table? t).toList ++ r.1, r.2)

theorem readTables_append (p : TablePlace) (ts us : List Token) : readTables p (ts ++ us) =
    ((readTables p ts).1 ++ (readTables (readTables p ts).2 us).1,
      (readTables (readTables p ts).2 us).2) := by
  induction ts generalizing p with
  | nil => rfl
  | cons t ts ih =>
    rw [List.cons_append, readTables, readTables, ih, List.append_assoc]

/-- No table follows a word that neither announces one nor can stand in front of one. -/
theorem readTables_word (p : TablePlace) {cs : List Char}
    (hclause : (Token.keyword cs).clause? = none)
    (hdelays : (Token.keyword cs).delaysTable = false) :
    readTables p [.keyword cs] = ([], .elsewhere) := by
  show ((p.table? (.keyword cs)).toList ++ [], p.next (.keyword cs)) = _
  cases p <;> simp [TablePlace.table?, TablePlace.next, hclause, hdelays]

/-- An argument in the place of a placeholder names no table. -/
theorem readTables_bindArguments (p : TablePlace) (as : List Argument) (ts : List Token) :
    readTables p (bindArguments as ts) = readTables p ts := by
  fun_induction bindArguments as ts generalizing p with
  | case1 => rfl
  | case2 a as ts ih =>
    rw [readTables, readTables, ih]
    cases p <;> rfl
  | case3 as t ts _ ih => rw [readTables, readTables, ih]

/-! ### Pieces -/

/-- The tokens of a piece. What a raw fragment says is left open. -/
def Piece.outline : Piece → List Token
  | .raw _ => [.literal []]
  | p => p.tokens .prepared

def outline (ps : List Piece) : List Token := ps.flatMap Piece.outline

/-- The tables that pieces name. -/
def tablesOf (ps : List Piece) : List (Clause × String) := (readTables .elsewhere (outline ps)).1

/-- The tables that a text names. -/
def tablesIn (quote : Char) (sql : String) : Option (List (Clause × String)) :=
  (scan quote sql.toList).map fun ls => (readTables .elsewhere (tokens ls)).1

theorem outline_eq_tokensOf {ps : List Piece} (h : Spaced ps) :
    outline ps = tokensOf .prepared ps := by
  rw [outline, tokensOf, List.flatMap_def, List.flatMap_def]
  congr 1
  refine List.map_congr_left fun p hp => ?_
  have hsound := h.sound p hp
  cases p with
  | raw s => cases hsound
  | _ => rfl

/-- A text names the tables of its pieces. -/
theorem tablesIn_textOf (d : Dialect) {ps : List Piece} (h : Spaced ps) :
    tablesIn d.quote (textOf d .prepared ps) = some (tablesOf ps) := by
  rw [tablesIn, scan_textOf d .prepared h, Option.map_some, tablesOf, outline_eq_tokensOf h,
    ← bindArguments_tokens d h, readTables_bindArguments]

/-! ### Clauses without tables -/

/-- Whether no table follows a piece. -/
def Piece.opensNoTable (p : Piece) : Prop := ∀ t ∈ p.outline, t.clause? = none

theorem opensNoTable_numberPiece (n : Nat) : (numberPiece n).opensNoTable := by
  show ∀ t ∈ (numberPiece n).tokens .prepared, _
  rw [tokens_natural]
  simp [Token.clause?]

theorem opensNoTable_aliasPiece (n : Nat) : (aliasPiece n).opensNoTable := by
  show ∀ t ∈ (aliasPiece n).tokens .prepared, _
  rw [tokens_aliasPiece]
  simp [Token.clause?]

theorem opensNoTable_literal (v : Value) : (Piece.literal v).opensNoTable := by
  have hunsigned {ts : List Token} {cs : List Char} (h : UnsignedTokens ts cs) :
      ∀ t ∈ ts, t.clause? = none := by
    cases h <;> simp [Token.clause?]
  have hliteral {ts : List Token} {cs : List Char} (h : LiteralTokens ts cs) :
      ∀ t ∈ ts, t.clause? = none := by
    cases h with
    | null => simp [Token.clause?]
    | word cs => simp [Token.clause?]
    | positive h => exact hunsigned h
    | negative h => exact List.forall_mem_cons.2 ⟨rfl, hunsigned h⟩
  exact hliteral (literalTokens_lexemes v)

theorem wording_opensNoTable : Wording Piece.opensNoTable where
  name s := by simp [Piece.opensNoTable, Piece.outline, Piece.tokens, Token.clause?]
  argument a := by simp [Piece.opensNoTable, Piece.outline, Piece.tokens, Token.clause?]
  raw s := by simp [Piece.opensNoTable, Piece.outline, Token.clause?]
  text := by
    show ∀ s ∈ fixedTexts, ∀ t ∈ tokens (s.toList.map .bare), t.clause? = none
    decide +kernel

/-- Where no table is named, none is named before one is announced. -/
theorem readTables_elsewhere {ps : List Piece} (h : ∀ p ∈ ps, p.opensNoTable) :
    readTables .elsewhere (outline ps) = ([], .elsewhere) := by
  have htokens : ∀ ts : List Token, (∀ t ∈ ts, t.clause? = none) →
      readTables .elsewhere ts = ([], .elsewhere) := by
    intro ts hts
    induction ts with
    | nil => rfl
    | cons t ts ih =>
      rw [List.forall_mem_cons] at hts
      have hnext : TablePlace.elsewhere.next t = .elsewhere := by simp [TablePlace.next, hts.1]
      rw [readTables, hnext, ih hts.2]
      rfl
  refine htokens _ fun t ht => ?_
  obtain ⟨p, hp, ht⟩ := List.mem_flatMap.1 ht
  exact h p hp t ht

section Clauses

variable {p q r : TablePlace} {c : Clause} {ps qs : List Piece} {ns ms : List (Clause × String)}

theorem readTables_outline_append (hps : readTables p (outline ps) = (ns, q))
    (hqs : readTables q (outline qs) = (ms, r)) :
    readTables p (outline (ps ++ qs)) = (ns ++ ms, r) := by
  rw [outline, List.flatMap_append, readTables_append]
  show (_, _) = _
  rw [show readTables p (ps.flatMap Piece.outline) = (ns, q) from hps]
  exact congrArg (fun x => (ns ++ x.1, x.2)) hqs

theorem readTables_outline_cons {x : Piece} (hx : readTables p x.outline = (ns, q))
    (hps : readTables q (outline ps) = (ms, r)) :
    readTables p (outline (x :: ps)) = (ns ++ ms, r) := by
  have hone : readTables p (outline [x]) = (ns, q) := by
    rw [outline, List.flatMap_singleton]
    exact hx
  exact readTables_outline_append hone hps

theorem readTables_sql {s : String} (hs : readTables p (tokens (s.toList.map .bare)) = ([], q))
    (hps : readTables q (outline ps) = (ns, r)) :
    readTables p (outline (.sql s :: ps)) = (ns, r) := by
  have hx : readTables p (Piece.sql s).outline = ([], q) := hs
  exact readTables_outline_cons hx hps

theorem readTables_name {s : String} (hps : readTables (.behind c) (outline ps) = (ns, r)) :
    readTables (.before c) (outline (.name s :: ps)) = ((c, s) :: ns, r) := by
  have hname : readTables (.before c) (Piece.name s).outline = ([(c, s)], .behind c) := by
    show ([(c, String.ofList s.toList)] ++ [], TablePlace.behind c) = _
    rw [String.ofList_toList]
    rfl
  exact readTables_outline_cons hname hps

/-- A clause of a word and other pieces without tables. -/
theorem readTables_clause {s : String}
    (hs : readTables p (tokens (s.toList.map .bare)) = ([], .elsewhere))
    (hps : ∀ x ∈ .sql s :: ps, x.opensNoTable) :
    readTables p (outline (.sql s :: ps)) = ([], .elsewhere) :=
  readTables_sql hs (readTables_elsewhere (List.forall_mem_cons.1 hps).2)

theorem readTables_setPieces (p : TablePlace) (qualified : Bool) (as : List Assignment) :
    readTables p (outline (setPieces qualified as)) = ([], .elsewhere) := by
  have hword : tokens (" SET ".toList.map .bare) = [.keyword "SET".toList] := rfl
  refine readTables_clause ?_ (Wording.setPieces wording_opensNoTable qualified as)
  rw [hword]
  exact readTables_word p (by decide) (by decide)

theorem readTables_where (p : TablePlace) :
    readTables p (tokens (" WHERE ".toList.map .bare)) = ([], .elsewhere) := by
  have hword : tokens (" WHERE ".toList.map .bare) = [.keyword "WHERE".toList] := rfl
  rw [hword]
  exact readTables_word p (by decide) (by decide)

theorem readTables_wherePieces (hp : p.isBefore = false) (filter : Option Expr) :
    ∃ q, q.isBefore = false ∧ readTables p (outline (wherePieces filter)) = ([], q) := by
  cases filter with
  | none => exact ⟨p, hp, rfl⟩
  | some e =>
    exact ⟨.elsewhere, rfl,
      readTables_clause (readTables_where p) (Wording.wherePieces wording_opensNoTable (some e))⟩

theorem readTables_separated (c : Clause) (t : Table) (ts : List Table) :
    readTables (.before c) (outline (separated ", " ((t :: ts).map fun u => [.name u.name])))
      = ((t :: ts).map fun u => (c, u.name), .behind c) := by
  induction ts generalizing t with
  | nil => exact readTables_name rfl
  | cons u ts ih => exact readTables_name (readTables_sql rfl (ih u))

/-- The words for every kind of join end in `JOIN`. -/
theorem tokens_kind (kind : JoinKind) : ∃ cs, tokens (kind.sql.toList.map .bare)
    = [.keyword cs, .keyword "JOIN".toList] := by
  cases kind <;> exact ⟨_, rfl⟩

theorem readTables_kind (p : TablePlace) (kind : JoinKind) :
    readTables p (tokens (kind.sql.toList.map .bare)) = ([], .before .join) := by
  obtain ⟨cs, hcs⟩ := tokens_kind kind
  have hword : ∀ (q : TablePlace) (cs : List Char), q.table? (.keyword cs) = none := by
    intro q cs
    cases q <;> rfl
  have hjoin : (Token.keyword "JOIN".toList).clause? = some .join := by decide
  rw [hcs, readTables, readTables, hword, hword]
  generalize p.next (.keyword cs) = q
  show ([], q.next (.keyword "JOIN".toList)) = _
  unfold TablePlace.next
  rw [hjoin]

theorem readTables_partPieces (p : TablePlace) (part : JoinPart) :
    ∃ q, q.isBefore = false ∧
      readTables p (outline part.pieces) = ([(.join, part.table.name)], q) := by
  have hspace (p : TablePlace) : readTables p (tokens (" ".toList.map .bare)) = ([], p) := by
    cases p <;> rfl
  have hhead {ps : List Piece} {q : TablePlace}
      (hps : readTables (.behind .join) (outline ps) = ([], q)) :
      readTables p (outline ([.sql " ", .sql part.kind.sql, .sql " ", .name part.table.name] ++ ps))
        = ([(.join, part.table.name)], q) :=
    readTables_sql (hspace p) (readTables_sql (readTables_kind p part.kind)
      (readTables_sql (hspace (.before .join)) (readTables_name hps)))
  rw [JoinPart.pieces]
  split
  · have hconditions : ∀ x ∈ .sql " ON " :: part.conditionPieces, x.opensNoTable :=
      List.forall_mem_cons.2 ⟨Wording.text wording_opensNoTable _ (by decide),
        Wording.conditionPieces wording_opensNoTable opensNoTable_literal part⟩
    exact ⟨.elsewhere, rfl, hhead (readTables_clause (by decide) hconditions)⟩
  · exact ⟨.behind .join, rfl, hhead rfl⟩

theorem readTables_parts (hp : p.isBefore = false) (parts : List JoinPart) :
    ∃ q, q.isBefore = false ∧ readTables p (outline (parts.flatMap JoinPart.pieces))
      = (parts.map fun part => (.join, part.table.name), q) := by
  induction parts generalizing p with
  | nil => exact ⟨p, hp, rfl⟩
  | cons part parts ih =>
    obtain ⟨q, hq, hpart⟩ := readTables_partPieces p part
    obtain ⟨r, hr, hparts⟩ := ih hq
    exact ⟨r, hr, readTables_outline_append hpart hparts⟩

/-- A join names its leading table, and the table of each part. -/
theorem readTables_joinPieces (c : Clause) (j : Join) :
    ∃ q, q.isBefore = false ∧ readTables (.before c) (outline j.pieces)
      = ((c, j.lead.name) :: j.parts.map fun part => (.join, part.table.name), q) := by
  obtain ⟨q, hq, hparts⟩ := readTables_parts (p := .behind c) rfl j.parts
  exact ⟨q, hq, readTables_name hparts⟩

theorem readTables_topPieces (limit : Option Nat) :
    readTables (.before c) (outline (topPieces limit)) = ([], .before c) := by
  cases limit with
  | none => rfl
  | some n =>
    have hnumber : readTables (.before c) (numberPiece n).outline = ([], .before c) := by
      show readTables (.before c) ((numberPiece n).tokens .prepared) = _
      rw [tokens_natural]
      rfl
    exact readTables_sql rfl (readTables_outline_cons hnumber (readTables_sql rfl rfl))

theorem readTables_fromPieces (t : Table) (j : Join) :
    ∃ q, q.isBefore = false ∧ readTables .elsewhere (outline (fromPieces t j))
      = ((otherTables t j).map fun u => (.from, u.name), q) := by
  unfold fromPieces
  cases otherTables t j with
  | nil => exact ⟨.elsewhere, rfl, rfl⟩
  | cons u us =>
    exact ⟨.behind .from, rfl, readTables_sql (by decide) (readTables_separated .from u us)⟩

theorem readTables_joinedWherePieces (hp : p.isBefore = false) (j : Join) (filter : Option Expr) :
    ∃ q, readTables p (outline (joinedWherePieces j filter)) = ([], q) := by
  have hclosed := Wording.joinedWherePieces wording_opensNoTable opensNoTable_literal j filter
  rw [joinedWherePieces.eq_def] at hclosed ⊢
  cases hcs : joinConditions j with
  | nil =>
    obtain ⟨q, -, hq⟩ := readTables_wherePieces hp filter
    exact ⟨q, hq⟩
  | cons c cs =>
    rw [hcs] at hclosed
    exact ⟨.elsewhere, readTables_clause (readTables_where p) hclosed⟩

end Clauses

/-! ### Statements on a join -/

theorem tablesOf_eq {ps : List Piece} {ns : List (Clause × String)} {q : TablePlace}
    (h : readTables .elsewhere (outline ps) = (ns, q)) : tablesOf ps = ns := by
  rw [tablesOf, h]

theorem tablesOf_listPieces (j : Join) (as : List Assignment) (filter : Option Expr) :
    tablesOf (Plan.pieces ⟨.list j, as, filter⟩)
      = (.update, j.lead.name) :: j.parts.map fun part => (.join, part.table.name) := by
  obtain ⟨q, -, hjoin⟩ := readTables_joinPieces .update j
  obtain ⟨r, -, hwhere⟩ := readTables_wherePieces (p := .elsewhere) rfl filter
  have hhead : readTables .elsewhere (outline (.sql "UPDATE " :: j.pieces)) = (_, q) :=
    readTables_sql (by decide) hjoin
  have hall := readTables_outline_append
    (readTables_outline_append hhead (readTables_setPieces q true as)) hwhere
  rw [List.append_nil, List.append_nil] at hall
  exact tablesOf_eq hall

theorem tablesOf_fromPieces (t : Table) (j : Join) (qualified : Bool) (top : Option Nat)
    (as : List Assignment) (filter : Option Expr) :
    tablesOf (Plan.pieces ⟨.from t j qualified top, as, filter⟩)
      = (.update, t.name) :: (otherTables t j).map fun u => (.from, u.name) := by
  obtain ⟨q, hq, hfrom⟩ := readTables_fromPieces t j
  obtain ⟨r, hwhere⟩ := readTables_joinedWherePieces hq j filter
  have hhead : readTables .elsewhere (outline (.sql "UPDATE " :: (topPieces top
      ++ .name t.name :: setPieces qualified as))) = ([(.update, t.name)], .elsewhere) :=
    readTables_sql (by decide) (readTables_outline_append (readTables_topPieces top)
      (readTables_name (readTables_setPieces _ qualified as)))
  have hall := readTables_outline_append (readTables_outline_append hhead hfrom) hwhere
  rw [List.append_nil] at hall
  exact tablesOf_eq hall

theorem tablesOf_mergePieces (t source : Table) (part : JoinPart) (as : List Assignment)
    (filter : Option Expr) : tablesOf (Plan.pieces ⟨.merge t source part, as, filter⟩)
      = [(.into, t.name), (.using, source.name)] := by
  obtain ⟨r, -, hwhere⟩ := readTables_wherePieces (p := .elsewhere) rfl filter
  have hconditions : ∀ x ∈ .sql " ON " :: mergeConditions part, x.opensNoTable :=
    List.forall_mem_cons.2 ⟨Wording.text wording_opensNoTable _ (by decide),
      Wording.mergeConditions wording_opensNoTable opensNoTable_literal part⟩
  have hhead : readTables .elsewhere (outline ([.sql "MERGE INTO ", .name t.name, .sql " USING ",
      .name source.name, .sql " ON "] ++ mergeConditions part))
        = ([(.into, t.name), (.using, source.name)], .elsewhere) :=
    readTables_sql (by decide) (readTables_name (readTables_sql (by decide) (readTables_name
      (readTables_clause (by decide) hconditions))))
  have hset : readTables .elsewhere (outline (.sql " WHEN MATCHED THEN UPDATE"
      :: setPieces true as)) = ([], .elsewhere) :=
    readTables_sql (by decide) (readTables_setPieces (.before .update) true as)
  have hall := readTables_outline_append (readTables_outline_append hhead hset) hwhere
  rw [List.append_nil, List.append_nil] at hall
  exact tablesOf_eq hall

theorem tablesOf_viewPieces (j : Join) (limit : Option Nat) (as : List Assignment)
    (filter : Option Expr) : tablesOf (Plan.pieces ⟨.view j limit, as, filter⟩)
      = (.from, j.lead.name) :: j.parts.map fun part => (.join, part.table.name) := by
  have hselect : ∀ x ∈ separated ", " ((aliased 0 as).map fun c => selectPieces c.1 c.2),
      x.opensNoTable := Wording.separated wording_opensNoTable (by decide) (List.forall_mem_map.2
        fun c _ => Wording.selectPieces wording_opensNoTable opensNoTable_aliasPiece c.1 c.2)
  have hset : ∀ x ∈ separated ", " ((aliased 0 as).map fun c => viewSetPieces c.1 c.2),
      x.opensNoTable := Wording.separated wording_opensNoTable (by decide) (List.forall_mem_map.2
        fun c _ => Wording.viewSetPieces wording_opensNoTable opensNoTable_aliasPiece c.1 c.2)
  have hlimit := readTables_elsewhere
    (Wording.rownumClause wording_opensNoTable opensNoTable_numberPiece limit)
  obtain ⟨q, hq, hjoin⟩ := readTables_joinPieces .from j
  obtain ⟨r, hr, hwhere⟩ := readTables_wherePieces hq filter
  have hcolumns : readTables .elsewhere (outline (.sql "UPDATE (SELECT "
      :: separated ", " ((aliased 0 as).map fun c => selectPieces c.1 c.2))) = ([], .elsewhere) :=
    readTables_sql (by decide) (readTables_elsewhere hselect)
  have hfrom : readTables .elsewhere (outline (.sql " FROM " :: j.pieces)) = (_, q) :=
    readTables_sql (by decide) hjoin
  have hclosing : readTables r (tokens (") x SET ".toList.map .bare)) = ([], .elsewhere) := by
    cases r with
    | before => cases hr
    | elsewhere => rfl
    | behind => rfl
  have hviewSet : readTables r (outline (.sql ") x SET "
      :: separated ", " ((aliased 0 as).map fun c => viewSetPieces c.1 c.2))) = ([], .elsewhere) :=
    readTables_sql hclosing (readTables_elsewhere hset)
  have hall := readTables_outline_append (readTables_outline_append (readTables_outline_append
    (readTables_outline_append hcolumns hfrom) hwhere) hviewSet) hlimit
  rw [List.append_nil, List.append_nil, List.append_nil] at hall
  exact tablesOf_eq hall

end SqlUpdate
