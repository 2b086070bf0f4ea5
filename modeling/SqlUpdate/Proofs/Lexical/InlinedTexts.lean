import SqlUpdate.Proofs.Lexical.Clauses
import SqlUpdate.Proofs.Lexical.Escapes
import SqlUpdate.Proofs.Lexical.Pieces
import SqlUpdate.Proofs.Statement.Wording
/-!
# Texts in the constraints of a join

The constraints of a join are written with literals. A text is put between quotes, and quotes in it
are doubled. Where a backslash starts an escape, this is not enough.

* `literalsOf`, `Join.constants` — the literals of a statement are the values in the constraints.
* `scans_textOf` — pieces that are kept apart leave the scanner outside all regions, if no text
  among them has an escape.
* `ReadsText` — a text is read back from its literal in a statement.
* `constants_readBack_iff` — where all tables of a join are updated, exactly texts without escapes
  are read back.
-/

namespace SqlUpdate

/-! ### Literals -/

/-- The literal of a piece. -/
def Piece.literal? : Piece → Option Value
  | .literal v => some v
  | _ => none

/-- The literals of a list of pieces, in order. -/
def literalsOf (ps : List Piece) : List Value := ps.filterMap Piece.literal?

/-- The values in the constraints of a join, part by part. -/
def Join.constants (j : Join) : List Value :=
  j.parts.flatMap fun p => (p.constraint.map Expr.arguments).toList.flatten.map Argument.value

theorem literalsOf_append (ps qs : List Piece) :
    literalsOf (ps ++ qs) = literalsOf ps ++ literalsOf qs := List.filterMap_append

theorem literalsOf_eq_nil {ps : List Piece} (h : ∀ p ∈ ps, p.literal? = none) :
    literalsOf ps = [] := List.filterMap_eq_nil_iff.2 h

theorem mem_literalsOf {v : Value} {ps : List Piece} : v ∈ literalsOf ps ↔ .literal v ∈ ps := by
  rw [literalsOf, List.mem_filterMap]
  constructor
  · rintro ⟨p, hp, hv⟩
    cases p <;> cases hv
    exact hp
  · intro h
    exact ⟨.literal v, h, rfl⟩

/-- Only constraints have literals. -/
theorem wording_literal : Wording fun p => p.literal? = none where
  name _ := rfl
  argument _ := rfl
  raw _ := rfl
  text _ _ := rfl

theorem literalsOf_separated (separator : String) (pss : List (List Piece)) :
    literalsOf (separated separator pss) = pss.flatMap literalsOf := by
  induction pss with
  | nil => rfl
  | cons ps pss ih =>
    cases pss with
    | nil => simp [separated]
    | cons qs pss =>
      rw [separated, literalsOf_append, List.flatMap_cons, ← ih]
      rfl

/-- With literals in place of arguments, the literals are the values of the arguments. -/
theorem literalsOf_map_inlined {ps : List Piece} (h : ∀ p ∈ ps, p.literal? = none) :
    literalsOf (ps.map Piece.inlined) = (argumentsOf ps).map Argument.value := by
  rw [literalsOf, argumentsOf, List.filterMap_map, List.map_filterMap]
  refine List.filterMap_congr fun p hp => ?_
  cases p with
  | literal v => cases h _ hp
  | _ => rfl

theorem literalsOf_constraintPieces (e : Expr) :
    literalsOf (constraintPieces e) = e.arguments.map Argument.value := by
  show literalsOf (e.pieces.map Piece.inlined ++ [.sql ")"]) = _
  rw [literalsOf_append, literalsOf_map_inlined (wording_literal.pieces e), e.argumentsOf_pieces]
  exact List.append_nil _

theorem literalsOf_partPieces (p : JoinPart) : literalsOf p.pieces
    = (p.constraint.map Expr.arguments).toList.flatten.map Argument.value := by
  have hpairs : (p.pairs.map pairPieces).flatMap literalsOf = [] := by
    refine List.flatMap_eq_nil_iff.2 (List.forall_mem_map.2 fun pair _ => literalsOf_eq_nil ?_)
    rw [pairPieces, List.forall_mem_append, List.forall_mem_cons]
    exact ⟨wording_literal.qualified _, rfl, wording_literal.qualified _⟩
  have hconditions : literalsOf p.conditionPieces
      = (p.constraint.map Expr.arguments).toList.flatten.map Argument.value := by
    rw [JoinPart.conditionPieces, literalsOf_separated, JoinPart.conditions, List.flatMap_append,
      hpairs, List.nil_append]
    cases p.constraint with
    | none => rfl
    | some e => simp [literalsOf_constraintPieces]
  rw [JoinPart.pieces, literalsOf_append]
  split
  · exact hconditions
  · rename_i hnone
    rw [JoinPart.hasConditions, Bool.not_eq_true, Bool.or_eq_false_iff] at hnone
    have hconstraint : p.constraint = none := by simpa using hnone.2
    rw [hconstraint]
    rfl

theorem literalsOf_joinPieces (j : Join) : literalsOf j.pieces = j.constants := by
  show literalsOf (j.parts.flatMap JoinPart.pieces) = _
  rw [Join.constants]
  induction j.parts with
  | nil => rfl
  | cons p ps ih =>
    rw [List.flatMap_cons, literalsOf_append, List.flatMap_cons, literalsOf_partPieces, ih]

/-! ### Scanning pieces -/

theorem opensQuoted_eq (c : Char) : opensQuoted c
    = (opensRegion Dialect.mysql.quote c || opensRegion Dialect.generic.quote c) := by
  show ((c == Value.singleQuote || c == '"') || c == '\x60')
    = ((c == Value.singleQuote || c == '\x60') || (c == Value.singleQuote || c == '"'))
  cases c == Value.singleQuote <;> cases c == '"' <;> cases c == '\x60' <;> rfl

theorem opensQuoted_of_isCalm {c : Char} (h : isCalm c = true) : opensQuoted c = false := by
  rw [opensQuoted_eq, opensRegion_of_isCalm .mysql h, opensRegion_of_isCalm .generic h]
  rfl

theorem opensQuoted_of_isBreak {c : Char} (h : isBreak c = true) : opensQuoted c = false :=
  opensQuoted_of_isCalm (by rw [isCalm, h, Bool.or_true, Bool.true_or])

/-- The digits of bytes are no backslashes. -/
theorem backslash_not_mem_hexPairs (bytes : List UInt8) :
    '\\' ∉ bytes.flatMap Value.hexPair := by
  have hdigit : ∀ n < 16, Value.hexChar n ≠ '\\' := by decide
  intro hmem
  obtain ⟨b, -, hb⟩ := List.mem_flatMap.1 hmem
  have hb' := b.toNat_lt
  rw [Value.hexPair, List.mem_cons, List.mem_singleton] at hb
  rcases hb with hb | hb
  · exact hdigit _ (by omega) hb.symm
  · exact hdigit _ (by omega) hb.symm

section Scanning

variable {rule : EscapeRule} {c : Char} {cs : List Char} {ls : List Lexeme} {q : Place}

/-- A quoted region, if a character follows that opens none. -/
theorem scans_region {quote : Char} {content : List Char} (hquote : opensQuoted quote = true)
    (hcontent : Scans rule (.inside quote []) (Quoted.doubled quote content) []
      (.inside quote content)) (hc : opensQuoted c = false)
    (h : Scans rule .outside (c :: cs) ls q) :
    Scans rule .outside (Quoted.enclosed quote content ++ c :: cs) (.quoted quote content :: ls)
      q := by
  have hne : c ≠ quote := by
    rintro rfl
    rw [hquote] at hc
    cases hc
  exact (scans_enclosed hquote hcontent).append (scans_closing hne h)

theorem scans_literal {v : Value} (hv : ∀ t, v = .text t → rule.spares t.toList = true)
    (hc : opensQuoted c = false) (h : Scans rule .outside (c :: cs) ls q) :
    Scans rule .outside (v.literal.toList ++ c :: cs) (v.lexemes ++ ls) q := by
  have hbare (hquoted : v.isQuoted = false) (hlexemes : v.lexemes = v.literal.toList.map .bare) :
      Scans rule .outside (v.literal.toList ++ c :: cs) (v.lexemes ++ ls) q := by
    rw [hlexemes]
    refine (scans_bare fun x hx => ?_).append h
    obtain ⟨negative, w, hw, -, hcalm⟩ :=
      calm_of_bareLiteral (Value.bareLiteral_of_not_quoted hquoted)
    rw [hw] at hx
    cases negative with
    | false => exact opensQuoted_of_isCalm (hcalm x hx)
    | true =>
      rcases List.mem_cons.1 hx with rfl | hx
      · decide
      · exact opensQuoted_of_isCalm (hcalm x hx)
  cases v with
  | null => exact hbare rfl rfl
  | bool b => exact hbare rfl rfl
  | int i => exact hbare rfl rfl
  | float x => exact hbare rfl rfl
  | text t =>
    rw [Value.literal, String.toList_ofList]
    exact scans_region rfl (scans_doubled_text (hv t rfl) []) hc h
  | blob bytes =>
    have hspared : rule.spares _ = true := spares_of_not_mem (backslash_not_mem_hexPairs bytes)
    have hmark : rule.step .outside 'X' = ([.bare 'X'], .outside) :=
      EscapeRule.step_bare (by decide)
    have hregion := (scans_region rfl (scans_doubled_text hspared []) hc h)
    rw [Value.literal, String.toList_ofList]
    show Scans rule .outside ('X' :: (Quoted.enclosed Value.singleQuote _ ++ c :: cs))
      ([.bare 'X'] ++ (.quoted Value.singleQuote _ :: ls)) q
    exact Scans.cons hmark hregion

theorem scans_sql {s : String} (hsound : (Piece.sql s).isSound = true) :
    Scans rule .outside s.toList (s.toList.map .bare) .outside := by
  refine scans_bare fun x hx => ?_
  rw [opensQuoted_eq, opensRegion_of_isSound .mysql hsound x hx,
    opensRegion_of_isSound .generic hsound x hx]
  rfl

/-- A piece, if a character follows that opens no region. -/
theorem scans_piece {d : Dialect} (hd : d.quote = '\x60') {p : Piece} (hsound : p.isSound = true)
    (hp : ∀ t, p = .literal (.text t) → rule.spares t.toList = true) (hc : opensQuoted c = false)
    (h : Scans rule .outside (c :: cs) ls q) :
    Scans rule .outside ((p.text d .prepared).toList ++ c :: cs)
      (p.lexemes d .prepared ++ ls) q := by
  cases p with
  | sql s => exact (scans_sql hsound).append h
  | name s =>
    rw [Piece.text, Dialect.identifier, Piece.lexemes]
    split
    · rename_i hplain
      exact (scans_bare fun x hx => opensQuoted_of_isCalm
        (isCalm_of_isNameChar ((isPlainName_chars hplain).2 x hx))).append h
    · rw [Dialect.quotedIdentifier, String.toList_ofList, hd]
      exact scans_region rfl (scans_doubled_identifier rfl _ []) hc h
  | raw s => cases hsound
  | argument a =>
    have hmark : rule.step .outside '?' = ([.bare '?'], .outside) :=
      EscapeRule.step_bare (by decide)
    have htext : ((Piece.argument a).text d .prepared).toList = ['?'] := by
      show "?".toList = ['?']
      decide
    rw [htext]
    exact Scans.cons hmark h
  | literal v => exact scans_literal (fun t ht => hp t (by rw [ht])) hc h

/-- What starts apart starts with a character that opens no region. -/
theorem exists_cons_of_startsApart (d : Dialect) {p : Piece} (h : p.startsApart = true)
    (ps : List Piece) : ∃ c cs, opensQuoted c = false ∧
      (textOf d .prepared (p :: ps)).toList = c :: cs := by
  cases p with
  | sql s =>
    obtain ⟨c, hc, hbreak⟩ := (Option.any_eq_true _ _).1 h
    obtain ⟨cs, hcs⟩ := List.head?_eq_some_iff.1 hc
    refine ⟨c, cs ++ (textOf d .prepared ps).toList, opensQuoted_of_isBreak hbreak, ?_⟩
    rw [textOf_cons, String.toList_append, Piece.text, hcs]
    rfl
  | name s => cases h
  | raw s => cases h
  | argument a => cases h
  | literal v => cases h

/-- Pieces that are kept apart are scanned one by one. Behind the last one the scanner is outside
all regions, if it ends apart. -/
theorem scans_textOf {d : Dialect} (hd : d.quote = '\x60') {ps : List Piece} (hspaced : Spaced ps)
    (hspared : ∀ t, .literal (.text t) ∈ ps → rule.spares t.toList = true)
    (hend : ∀ p ∈ ps.getLast?, p.endsApart = true) :
    Scans rule .outside (textOf d .prepared ps).toList (ps.flatMap (Piece.lexemes d .prepared))
      .outside := by
  induction ps with
  | nil => exact scans_nil
  | cons p ps ih =>
    have hsound := hspaced.sound p List.mem_cons_self
    have hrest := ih hspaced.tail (fun t ht => hspared t (List.mem_cons_of_mem p ht))
      fun r hr => hend r (by rw [List.getLast?_cons, hr]; rfl)
    rw [textOf_cons, String.toList_append, List.flatMap_cons]
    by_cases hsql : ∃ s, p = .sql s
    · obtain ⟨s, rfl⟩ := hsql
      exact (scans_sql hsound).append hrest
    · -- only a fixed text ends apart, so another one follows here
      have hend' : p.endsApart ≠ true := by
        cases p with
        | sql s => exact absurd ⟨s, rfl⟩ hsql
        | _ => nofun
      cases ps with
      | nil => exact absurd (hend p rfl) hend'
      | cons r ps =>
        have hstart := ((List.isChain_cons_cons.1 hspaced.apart).1).resolve_left hend'
        obtain ⟨c, cs, hc, htext⟩ := exists_cons_of_startsApart d hstart ps
        rw [htext] at hrest ⊢
        exact scans_piece hd hsound
          (fun t ht => hspared t (ht ▸ List.mem_cons_self)) hc hrest

end Scanning

/-! ### Statements on a join -/

/-- A text is read back from its literal in a statement: the scanner comes to the literal outside
all regions, reads it as one region that holds the text, and reads on outside of it. -/
def ReadsText (rule : EscapeRule) (sql before t after : String) : Prop :=
  sql = before ++ (Value.text t).literal ++ after ∧
    (rule.run .outside before.toList).2 = .outside ∧
    ∃ ls q, Scans rule .outside after.toList ls q ∧
      Scans rule .outside ((Value.text t).literal.toList ++ after.toList)
        (.quoted Value.singleQuote t.toList :: ls) q

section Statements

variable {rule : EscapeRule}

theorem ReadsText.spares {sql before t after : String} (h : ReadsText rule sql before t after) :
    rule.spares t.toList = true := by
  obtain ⟨-, -, ls, q, -, hread⟩ := h
  rw [Value.literal, String.toList_ofList] at hread
  exact spares_of_scans hread

/-- A text among pieces that are kept apart is read back, if no text up to it has an escape. -/
theorem readsText_of_spaced {d : Dialect} (hd : d.quote = '\x60') {before after : List Piece}
    {t : String} {p : Piece} (hspaced : Spaced (before ++ .literal (.text t) :: p :: after))
    (hspared : ∀ x, .literal (.text x) ∈ before ++ [.literal (.text t)] →
      rule.spares x.toList = true) (rest : List Piece) :
    ReadsText rule (textOf d .prepared (before ++ .literal (.text t) :: p :: (after ++ rest)))
      (textOf d .prepared before) t (textOf d .prepared (p :: (after ++ rest))) := by
  obtain ⟨hbefore, hbehind, hjoint⟩ := List.isChain_append.1 hspaced.apart
  have hend : ∀ r ∈ before.getLast?, r.endsApart = true := fun r hr =>
    (hjoint r hr _ rfl).resolve_right nofun
  have hstart : p.startsApart = true :=
    (List.isChain_cons_cons.1 hbehind).1.resolve_left nofun
  have hfront : Scans rule .outside (textOf d .prepared before).toList _ .outside :=
    scans_textOf hd ⟨hbefore, fun r hr => hspaced.sound r (List.mem_append_left _ hr)⟩
      (fun x hx => hspared x (List.mem_append_left _ hx)) hend
  refine ⟨?_, congrArg Prod.snd hfront, ?_⟩
  · rw [textOf_append, textOf_cons, String.append_assoc]
    rfl
  · obtain ⟨c, cs, hc, htext⟩ := exists_cons_of_startsApart d hstart (after ++ rest)
    have ht : rule.spares t.toList = true := hspared t (by simp)
    rw [htext, Value.literal, String.toList_ofList]
    refine ⟨_, _, rfl, scans_text ht ?_ rfl⟩
    rintro rfl
    cases hc

end Statements

/-- Where all tables of a join are updated, the join stands in front, and has all literals. -/
theorem rendered_list {ctx : Context} {u : Update} {j : Join} {s : Rendered}
    (hnative : ctx.dialect = .mysql ∨ ctx.dialect = .mariadb) (htarget : u.target = .join j)
    (h : u.render ctx = .ok s) : s.dialect.quote = '\x60' ∧
      ∃ rest, (∀ p ∈ rest, p.literal? = none) ∧
        s.pieces = (.sql "UPDATE " :: j.pieces ++ [.sql " SET "]) ++ rest := by
  obtain ⟨hquote, hstyle⟩ : ctx.joinDialect.quote = '\x60' ∧ ctx.joinDialect.joinStyle = .list := by
    rcases hnative with hd | hd
    all_goals
      rw [joinDialect_of_ne_h2 (by rw [hd]; decide), hd]
      exact ⟨rfl, rfl⟩
  obtain ⟨form, hplanned, rfl⟩ := render_join_eq_ok htarget h
  have hset := List.forall_mem_cons.1 (wording_literal.setPieces true u.assignments)
  refine ⟨hquote, _, List.forall_mem_append.2 ⟨hset.2, wording_literal.wherePieces u.filter⟩, ?_⟩
  cases hplanned with
  | list => simp [Plan.pieces, setPieces]
  | «from» hother => cases hstyle.symm.trans hother
  | merge hother => cases hstyle.symm.trans hother
  | view hother => cases hstyle.symm.trans hother

/-- A literal in front of the last of some pieces stands in front of all that follows. -/
theorem split_at_literal {front before after rest : List Piece} {last : String} {v : Value}
    (hrest : ∀ p ∈ rest, p.literal? = none)
    (h : (front ++ [.sql last]) ++ rest = before ++ .literal v :: after) :
    ∃ p mid, front ++ [.sql last] = before ++ .literal v :: p :: mid ∧
      after = p :: (mid ++ rest) := by
  rcases List.append_eq_append_iff.1 h with ⟨more, -, hmore⟩ | ⟨more, hfront, hmore⟩
  · have hliteral := hrest (.literal v) (by simp [hmore])
    cases hliteral
  · cases more with
    | nil =>
      rw [List.nil_append] at hmore
      exact absurd (hrest (.literal v) (hmore ▸ List.mem_cons_self)) nofun
    | cons p more =>
      obtain ⟨rfl, rfl⟩ := List.cons.inj hmore
      cases more with
      | nil =>
        have hlast := congrArg List.getLast? hfront
        simp at hlast
      | cons p mid => exact ⟨p, mid, hfront, rfl⟩

/-- **Only texts without escapes are read back from constraints.** Let a statement on a join without
raw fragments in its constraints compile for a database that writes the join itself and knows
escapes. Its literals are the values in the constraints, in order. Each text among them is read back
from the statement exactly if no text has an escape, whatever stands behind the join. -/
theorem constants_readBack_iff (rule : EscapeRule) {ctx : Context} {u : Update} {j : Join}
    {sql : String} (hnative : ctx.dialect = .mysql ∨ ctx.dialect = .mariadb)
    (htarget : u.target = .join j) (hraw : j.isRawFree = true) (h : u.compile ctx = .ok sql) :
    ∃ s, u.render ctx = .ok s ∧ literalsOf s.pieces = j.constants ∧
      ((∀ before t after, s.pieces = before ++ .literal (.text t) :: after →
          ReadsText rule sql (textOf s.dialect .prepared before) t
            (textOf s.dialect .prepared after)) ↔
        ∀ t, .text t ∈ j.constants → rule.spares t.toList = true) := by
  obtain ⟨s, hs, rfl⟩ := compile_eq_ok h
  obtain ⟨hquote, rest, hrest, hpieces⟩ := rendered_list hnative htarget hs
  have hliterals : literalsOf s.pieces = j.constants := by
    rw [hpieces, literalsOf_append, literalsOf_append, literalsOf_eq_nil hrest, List.append_nil,
      ← literalsOf_joinPieces]
    exact List.append_nil _
  have hspaced : Spaced (.sql "UPDATE " :: j.pieces ++ [.sql " SET "]) :=
    (Spaced.cons (by decide) (by decide) (spaced_joinPieces hraw)).append
      (.singleton (by decide)) (startsApart_cons (by decide))
  refine ⟨s, hs, hliterals, fun hread t ht => ?_, fun hspared before t after hsplit => ?_⟩
  · rw [← hliterals, mem_literalsOf] at ht
    obtain ⟨before, after, hsplit⟩ := List.append_of_mem ht
    exact (hread before t after hsplit).spares
  · have hconstant {x : String} (hx : .literal (.text x) ∈ before ++ [.literal (.text t)]) :
        .text x ∈ j.constants := by
      rw [← hliterals, mem_literalsOf, hsplit]
      rcases List.mem_append.1 hx with hx | hx
      · exact List.mem_append_left _ hx
      · rw [List.mem_singleton.1 hx]
        simp
    obtain ⟨p, mid, hfront, rfl⟩ := split_at_literal hrest (hpieces.symm.trans hsplit)
    rw [hfront] at hspaced
    show ReadsText rule (textOf s.dialect .prepared s.pieces) _ _ _
    rw [hsplit]
    exact readsText_of_spaced hquote hspaced (fun x hx => hspared x (hconstant hx)) rest

/-- Cities of a name are joined to their users. -/
def cityNameExample (name : String) : Update where
  target := .join ((Join.ofTable (.empty "users")).add ⟨.inner, .empty "cities",
    [(⟨"users", "city_id", .integer⟩, ⟨"cities", "city_id", .integer⟩)],
    some (Column.compare ⟨"cities", "name", .varchar⟩ .eq (.text name))⟩)
  assignments := [⟨⟨"users", "name", .varchar⟩, .value (.text "x")⟩]
  filter := none
  limit := none

/-- Quotes, and backslashes that are kept, do no harm. -/
theorem constants_readBack_cityNameExample :
    ∃ s, (cityNameExample "5\\% o'clock").render (.of .mysql) = .ok s ∧
      literalsOf s.pieces = [.text "5\\% o'clock"] ∧
      ∀ before t after, s.pieces = before ++ .literal (.text t) :: after →
        ∃ sql, ReadsText .mysql sql (textOf s.dialect .prepared before) t
          (textOf s.dialect .prepared after) := by
  obtain ⟨s, hs, hliterals, hread⟩ := @constants_readBack_iff .mysql (.of .mysql)
    (cityNameExample "5\\% o'clock") _ _ (.inl rfl) rfl rfl rfl
  refine ⟨s, hs, hliterals, fun before t after hsplit => ⟨_, hread.2 (fun t ht => ?_) _ _ _ hsplit⟩⟩
  rw [Value.text.inj (List.mem_singleton.1 ht)]
  decide

/-- A backslash is written as it is, so that its literal does not end where it should. What follows
it is read as a part of the text, up to the end of the statement. -/
theorem backslash_not_readBack :
    let sql := "UPDATE users INNER JOIN cities ON users.city_id = cities.city_id AND "
      ++ "(cities.name = '\\') SET users.name = ?"
    (cityNameExample "\\").compile (.of .mysql) = .ok sql ∧
      (∀ before after, ¬ ReadsText .plain sql before "\\" after ∧
        ¬ ReadsText .mysql sql before "\\" after) ∧
      (EscapeRule.mysql.run .outside sql.toList).2
        = .inside Value.singleQuote "') SET users.name = ?".toList := by
  refine ⟨rfl, fun before after => ⟨fun h => ?_, fun h => ?_⟩,
    by decide +kernel⟩
  · exact absurd h.spares (by decide)
  · exact absurd h.spares (by decide)

end SqlUpdate
