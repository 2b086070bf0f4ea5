import SqlUpdate.Proofs.Reading.Depth
/-!
# Which expressions are read back

An operand is written between parentheses if it is a conjunction or a disjunction inside another
operator, or arithmetic inside arithmetic. All other operands, and what is tested by `IS NULL`, `IN`
and `BETWEEN`, are written without any, even if they bind weaker than what surrounds them. Then the
text says something else, or nothing at all.

* `Expr.isFaithful` — every operand that is written without parentheses binds strongly enough.
* `faithful_of_guarded` — no other expression is read back.
* `readsBack_of_isFaithful` — these are.
* `readBack_iff` — both together, for every dialect and both readings.
-/

namespace SqlUpdate

namespace Expr

/-- How strongly an expression binds as it is written. -/
def strength : Expr → Nat
  | binary op _ _ => op.strength
  | not _ => notStrength
  | isNull .. | inList .. | between .. => 4
  | _ => atomStrength

/-- An operand of an operator is written between parentheses, or binds with a given strength. -/
def fits (op : BinaryOp) (p : Nat) (e : Expr) : Bool := e.needsParens op || decide (p ≤ e.strength)

mutual
/-- Every operand that is written without parentheses binds as strongly as it must. Conjunctions,
disjunctions and `NOT` ask for nothing, since all that binds weaker is written between parentheses
there. -/
def isFaithful : Expr → Bool
  | binary op e f => e.isFaithful && f.isFaithful &&
      (op.isLogical || (e.fits op op.strength && f.fits op (op.strength + 1)))
  | not e | paren e => e.isFaithful
  | isNull _ e => e.isFaithful && decide (4 ≤ e.strength)
  | inList _ e items => e.isFaithful && decide (4 ≤ e.strength) && areFaithful items
  | between _ e low high => e.isFaithful && low.isFaithful && high.isFaithful &&
      (decide (4 ≤ e.strength) && decide (5 ≤ low.strength) && decide (5 ≤ high.strength))
  | _ => true

def areFaithful : List Expr → Bool
  | [] => true
  | e :: es => e.isFaithful && areFaithful es
end

theorem strength_bounds (e : Expr) : 1 ≤ e.strength ∧ e.strength ≤ atomStrength := by
  cases e with
  | binary op e f =>
    have hop : 1 ≤ op.strength ∧ op.strength ≤ atomStrength := by cases op <;> decide
    exact hop
  | _ => simp [strength, notStrength, atomStrength]

/-- What binds weaker than a chain is written between parentheses there. -/
theorem member_of_needsParens {op : BinaryOp} (hop : op.isLogical = true) {e : Expr}
    (h : e.needsParens op = false) :
    (∃ f g, e = .binary op f g) ∨ op.strength + 1 ≤ e.strength := by
  have hchain := (strength_of_isLogical hop).2
  cases e with
  | binary op' f g =>
    by_cases hop' : op'.isLogical = true
    · rw [needsParens, hop', Bool.true_and, Bool.or_eq_false_iff] at h
      obtain rfl : op' = op := Classical.not_not.1 (of_decide_eq_false h.1)
      exact .inl ⟨f, g, rfl⟩
    · have hstrong : notStrength ≤ op'.strength := by
        cases op' <;> first | decide | exact absurd rfl hop'
      exact .inr (Nat.le_trans hchain hstrong)
  | not e => exact .inr hchain
  | _ =>
    refine .inr (Nat.le_trans hchain ?_)
    simp [strength, notStrength, atomStrength]

theorem strength_condition (r : Reading) {e : Expr} (h : ∀ g, e ≠ .paren g) :
    (e.condition r).strength = e.strength := by
  cases e with
  | paren g => exact absurd rfl (h g)
  | binary op e f => exact Condition.strength_apply op _ _
  | argument a => cases r <;> rfl
  | _ => rfl

end Expr

/-! ### The tokens of an expression -/

section Tokens

variable (r : Reading)

theorem tokensOf_binary (op : BinaryOp) (e f : Expr) : tokensOf r (Expr.binary op e f).pieces
    = tokensOf r (parenthesizedIf (e.needsParens op) e.pieces)
      ++ (op.tokens ++ tokensOf r (parenthesizedIf (f.needsParens op) f.pieces)) := by
  rw [Expr.pieces, tokensOf_append, tokensOf_append, tokensOf_operator, List.append_assoc]

theorem tokensOf_not (e : Expr) : tokensOf r (Expr.not e).pieces
    = .notWord :: tokensOf r (parenthesizedIf e.isBinary e.pieces) := by
  have hnot : Piece.tokens r (.sql "NOT ") = [.notWord] := by cases r <;> decide
  rw [Expr.pieces, tokensOf_cons, hnot]
  rfl

theorem tokensOf_isNull (negated : Bool) (e : Expr) : tokensOf r (Expr.isNull negated e).pieces
    = tokensOf r e.pieces ++ isNullWords negated := by
  have hwords : tokensOf r [.sql (if negated then " IS NOT NULL" else " IS NULL")]
      = isNullWords negated := by cases negated <;> cases r <;> decide
  rw [Expr.pieces, tokensOf_append, hwords]

theorem tokensOf_between (negated : Bool) (e low high : Expr) :
    tokensOf r (Expr.between negated e low high).pieces = tokensOf r e.pieces
      ++ (betweenWords negated ++ (tokensOf r low.pieces ++ .op .and :: tokensOf r high.pieces)) := by
  have hwords : tokensOf r [.sql (if negated then " NOT BETWEEN " else " BETWEEN ")]
      = betweenWords negated := by cases negated <;> cases r <;> decide
  have hand : tokensOf r [.sql " AND "] = [.op .and] := by cases r <;> decide
  rw [Expr.pieces]
  simp only [List.append_assoc, tokensOf_append, hwords, hand]
  rfl

theorem tokensOf_separated (pss : List (List Piece)) :
    tokensOf r (separated ", " pss) = commas (pss.map (tokensOf r)) := by
  have hcomma : Piece.tokens r (.sql ", ") = [.comma] := by cases r <;> decide
  induction pss with
  | nil => rfl
  | cons ps pss ih =>
    cases pss with
    | nil => rfl
    | cons qs pss =>
      rw [separated, tokensOf_append, tokensOf_cons, hcomma, ih]
      rfl

/-- The items of a list with what they say. -/
def itemPhrases (es : List Expr) : List (List Token × Condition) :=
  es.map fun e => (tokensOf r e.pieces, e.condition r)

theorem map_snd_itemPhrases (es : List Expr) :
    (itemPhrases r es).map Prod.snd = Expr.itemConditions r es := by
  induction es with
  | nil => rfl
  | cons e es ih =>
    rw [Expr.itemConditions, ← ih]
    rfl

theorem map_fst_itemPhrases (es : List Expr) :
    (itemPhrases r es).map Prod.fst = (Expr.itemPieces es).map (tokensOf r) := by
  induction es with
  | nil => rfl
  | cons e es ih =>
    rw [Expr.itemPieces, List.map_cons, ← ih]
    rfl

theorem tokensOf_inList_pieces (negated : Bool) (e : Expr) (items : List Expr) :
    tokensOf r (Expr.inList negated e items).pieces = tokensOf r e.pieces
      ++ (inWords negated ++ (commas ((itemPhrases r items).map Prod.fst) ++ [.closing])) := by
  have hclosing : tokensOf r [.sql ")"] = [.closing] := by cases r <;> decide
  rw [Expr.pieces, List.append_assoc, List.append_assoc, tokensOf_append, List.singleton_append,
    tokensOf_inList, tokensOf_append, hclosing, tokensOf_separated, map_fst_itemPhrases]

/-! ### Their number and their parentheses -/

theorem forms_operand {e : Expr} (h : Forms (tokensOf r e.pieces) (e.condition r)) (b : Bool) :
    Forms (tokensOf r (parenthesizedIf b e.pieces)) (e.condition r) := by
  cases b with
  | false => exact h
  | true =>
    rw [parenthesizedIf, if_pos rfl, tokensOf_parenthesized]
    exact h.parens

mutual
/-- An expression has as many tokens as what it says, and its parentheses match. -/
theorem forms_pieces : (e : Expr) → e.isRawFree = true →
    Forms (tokensOf r e.pieces) (e.condition r)
  | .column c, _ => forms_column c.table.toList c.name.toList
  | .argument a, _ => by
    rw [Expr.pieces, tokensOf_cons, tokensOf_nil, List.append_nil]
    cases r with
    | prepared => exact forms_argument a
    | inlined => exact forms_literal a.value
  | .raw _, h => nomatch h
  | .binary op e f, h => by
    rw [Expr.isRawFree, Bool.and_eq_true] at h
    rw [tokensOf_binary]
    exact (forms_operand r (forms_pieces e h.1) _).binary op
      (forms_operand r (forms_pieces f h.2) _)
  | .not e, h => by
    rw [Expr.isRawFree] at h
    rw [tokensOf_not]
    exact (forms_operand r (forms_pieces e h) _).not
  | .isNull negated e, h => by
    rw [Expr.isRawFree] at h
    rw [tokensOf_isNull]
    exact (forms_pieces e h).isNull negated
  | .inList negated e items, h => by
    rw [Expr.isRawFree, Bool.and_eq_true] at h
    rw [tokensOf_inList_pieces, Expr.condition, ← map_snd_itemPhrases]
    exact (forms_pieces e h.1).inList negated (forms_itemPhrases items h.2)
  | .between negated e low high, h => by
    rw [Expr.isRawFree, Bool.and_eq_true, Bool.and_eq_true] at h
    rw [tokensOf_between]
    exact (forms_pieces e h.1.1).between negated (forms_pieces low h.1.2) (forms_pieces high h.2)
  | .paren e, h => by
    rw [Expr.isRawFree] at h
    rw [Expr.pieces, tokensOf_parenthesized]
    exact (forms_pieces e h).parens

theorem forms_itemPhrases : (es : List Expr) → Expr.areRawFree es = true →
    ∀ x ∈ itemPhrases r es, Forms x.1 x.2
  | [], _ => nofun
  | e :: es, h => by
    rw [Expr.areRawFree, Bool.and_eq_true] at h
    exact List.forall_mem_cons.2 ⟨forms_pieces e h.1, forms_itemPhrases es h.2⟩
end

end Tokens

/-! ### What is read back is faithful -/

section Faithful

variable (r : Reading) {f : Nat → Nat} {i n p : Nat}

/-- Where an operand stands, with or without parentheses. -/
theorem placed_operand {e : Expr} (h : Forms (tokensOf r e.pieces) (e.condition r)) (b : Bool) :
    Placed f i n (tokensOf r (parenthesizedIf b e.pieces)) ↔
      Placed f i (if b then n + 1 else n) (tokensOf r e.pieces) := by
  cases b with
  | false => exact Iff.rfl
  | true =>
    rw [parenthesizedIf, if_pos rfl, tokensOf_parenthesized, h.spans.placed_parens]
    rfl

/-- Some token of an expression stands as deep as its first one, unless all of it stands between
parentheses. -/
theorem exists_depth_eq {e : Expr} (hraw : e.isRawFree = true) (hparen : ∀ g, e ≠ .paren g)
    (h : Placed f i n (tokensOf r e.pieces)) : ∃ j < (e.condition r).size, f (i + j) = n := by
  cases e with
  | column c => exact ⟨0, Nat.succ_pos 2, h.1 rfl⟩
  | argument a =>
    rw [Expr.pieces, tokensOf_cons, tokensOf_nil, List.append_nil] at h
    cases r with
    | prepared => exact ⟨0, Nat.one_pos, h.1 rfl⟩
    | inlined =>
      have hwords := words_lexemes a.value
      refine ⟨0, ?_, hwords.wordy.depth_eq h 0 hwords.pos⟩
      show 0 < literalSize a.value.literal.toList
      rw [literalSize_literal]
      exact hwords.pos
  | raw s => cases hraw
  | binary op e g =>
    rw [Expr.isRawFree, Bool.and_eq_true] at hraw
    have he := forms_operand r (forms_pieces r e hraw.1) (e.needsParens op)
    have hg := forms_operand r (forms_pieces r g hraw.2) (g.needsParens op)
    rw [tokensOf_binary] at h
    rw [Expr.condition, Condition.size_apply op he.members hg.members]
    exact he.exists_depth (words_operator op) h _
  | not e =>
    rw [tokensOf_not] at h
    exact ⟨0, by rw [Expr.condition, Condition.size]; omega, h.1 rfl⟩
  | isNull negated e =>
    rw [Expr.isRawFree] at hraw
    rw [tokensOf_isNull, ← List.append_nil (isNullWords negated)] at h
    exact (forms_pieces r e hraw).exists_depth (words_isNull negated) h 0
  | inList negated e items =>
    rw [Expr.isRawFree, Bool.and_eq_true] at hraw
    rw [tokensOf_inList_pieces, listTokens_eq] at h
    exact (forms_pieces r e hraw.1).exists_depth (words_list negated) h _
  | between negated e low high =>
    rw [Expr.isRawFree, Bool.and_eq_true, Bool.and_eq_true] at hraw
    rw [tokensOf_between] at h
    exact (forms_pieces r e hraw.1.1).exists_depth (words_between negated) h _
  | paren e => exact absurd rfl (hparen e)

/-- An operand that is held without parentheses binds strongly enough. -/
theorem strength_of_held {e : Expr} (hraw : e.isRawFree = true) (hp : p ≤ atomStrength)
    (hplaced : Placed f i n (tokensOf r e.pieces)) (hheld : (e.condition r).Held f i p n) :
    p ≤ e.strength := by
  by_cases hparen : ∃ g, e = .paren g
  · obtain ⟨g, rfl⟩ := hparen
    exact hp
  · have hno : ∀ g, e ≠ .paren g := fun g hg => hparen ⟨g, hg⟩
    rw [← Expr.strength_condition r hno]
    refine hheld.resolve_right fun hdeep => ?_
    obtain ⟨j, hj, heq⟩ := exists_depth_eq r hraw hno hplaced
    have hlt := hdeep j hj
    omega

theorem fits_of_held (op : BinaryOp) {e : Expr} (hraw : e.isRawFree = true)
    (hp : p ≤ atomStrength)
    (hplaced : Placed f i n (tokensOf r (parenthesizedIf (e.needsParens op) e.pieces)))
    (hheld : (e.condition r).Held f i p n) : e.fits op p = true := by
  rw [placed_operand r (forms_pieces r e hraw)] at hplaced
  rw [Expr.fits]
  cases hneeds : e.needsParens op with
  | true => rfl
  | false =>
    rw [hneeds] at hplaced
    exact decide_eq_true (strength_of_held r hraw hp hplaced hheld)

mutual
/-- An expression whose text says what it says is faithful. -/
theorem faithful_of_guarded : (e : Expr) → e.isRawFree = true → ∀ i n,
    Placed f i n (tokensOf r e.pieces) → (e.condition r).Guarded f i → e.isFaithful = true
  | .column _, _, _, _, _, _ => rfl
  | .argument _, _, _, _, _, _ => rfl
  | .raw _, h, _, _, _, _ => nomatch h
  | .binary op e g, h, i, n, hplaced, hguard => by
    rw [Expr.isRawFree, Bool.and_eq_true] at h
    have he := forms_operand r (forms_pieces r e h.1) (e.needsParens op)
    rw [tokensOf_binary, he.placed_words (words_operator op)] at hplaced
    obtain ⟨hleft, hdepth, -, hright⟩ := hplaced
    have hpe := (placed_operand r (forms_pieces r e h.1) _).1 hleft
    have hpg := (placed_operand r (forms_pieces r g h.2) _).1 hright
    rw [Expr.condition] at hguard
    by_cases hop : op.isLogical = true
    · -- A chain has lost the way it was put together, but both of its parts are guarded.
      rw [Condition.guarded_apply_logical f hop (he.members op)] at hguard
      have hfe := faithful_of_guarded e h.1 _ _ hpe hguard.1
      have hfg := faithful_of_guarded g h.2 _ _ hpg hguard.2
      simp [Expr.isFaithful, hfe, hfg, hop]
    · rw [Condition.apply, if_neg hop, Condition.Guarded, hdepth] at hguard
      obtain ⟨hheldl, hheldr, hguardl, hguardr⟩ := hguard
      have hstrength : op.strength + 1 ≤ atomStrength := by cases op <;> decide
      have hfe := faithful_of_guarded e h.1 _ _ hpe hguardl
      have hfg := faithful_of_guarded g h.2 _ _ hpg hguardr
      have hfitl := fits_of_held r op h.1 (by omega) hleft hheldl
      have hfitr := fits_of_held r op h.2 hstrength hright hheldr
      simp [Expr.isFaithful, hfe, hfg, hfitl, hfitr]
  | .not e, h, i, n, hplaced, hguard => by
    rw [Expr.isRawFree] at h
    rw [tokensOf_not] at hplaced
    have hpe := (placed_operand r (forms_pieces r e h) _).1 hplaced.2
    rw [Expr.condition, Condition.Guarded] at hguard
    rw [Expr.isFaithful]
    exact faithful_of_guarded e h _ _ hpe hguard
  | .isNull negated e, h, i, n, hplaced, hguard => by
    rw [Expr.isRawFree] at h
    rw [tokensOf_isNull, ← List.append_nil (isNullWords negated),
      (forms_pieces r e h).placed_words (words_isNull negated)] at hplaced
    obtain ⟨hpe, hdepth, -, -⟩ := hplaced
    rw [Expr.condition, Condition.Guarded, hdepth] at hguard
    have hfe := faithful_of_guarded e h _ _ hpe hguard.2
    have hstrong := strength_of_held r h (by decide) hpe hguard.1
    simp [Expr.isFaithful, hfe, hstrong]
  | .inList negated e items, h, i, n, hplaced, hguard => by
    rw [Expr.isRawFree, Bool.and_eq_true] at h
    rw [tokensOf_inList_pieces, listTokens_eq,
      (forms_pieces r e h.1).placed_words (words_list negated)] at hplaced
    obtain ⟨hpe, hdepth, -, hlist⟩ := hplaced
    have hpitems := (spans_commas (forms_itemPhrases r items h.2)).placed_parens.1 hlist
    rw [Expr.condition, Condition.Guarded, hdepth] at hguard
    have hfe := faithful_of_guarded e h.1 _ _ hpe hguard.2.1
    have hstrong := strength_of_held r h.1 (by decide) hpe hguard.1
    have hfitems := areFaithful_of_guarded items h.2 _ _ hpitems hguard.2.2
    simp [Expr.isFaithful, hfe, hstrong, hfitems]
  | .between negated e low high, h, i, n, hplaced, hguard => by
    rw [Expr.isRawFree, Bool.and_eq_true, Bool.and_eq_true] at h
    obtain ⟨⟨he, hlow⟩, hhigh⟩ := h
    rw [tokensOf_between,
      (forms_pieces r e he).placed_words (words_between negated)] at hplaced
    obtain ⟨hpe, hdepth, -, hbounds⟩ := hplaced
    obtain ⟨hplow, -, hphigh⟩ := (forms_pieces r low hlow).placed_bounds.1 hbounds
    rw [Expr.condition, Condition.Guarded, hdepth] at hguard
    obtain ⟨hhelde, hheldlow, hheldhigh, hguarde, hguardlow, hguardhigh⟩ := hguard
    have hfe := faithful_of_guarded e he _ _ hpe hguarde
    have hflow := faithful_of_guarded low hlow _ _ hplow hguardlow
    have hfhigh := faithful_of_guarded high hhigh _ _ hphigh hguardhigh
    have hstrong := strength_of_held r he (by decide) hpe hhelde
    have hstronglow := strength_of_held r hlow (by decide) hplow hheldlow
    have hstronghigh := strength_of_held r hhigh (by decide) hphigh hheldhigh
    simp [Expr.isFaithful, hfe, hflow, hfhigh, hstrong, hstronglow, hstronghigh]
  | .paren e, h, i, n, hplaced, hguard => by
    rw [Expr.isRawFree] at h
    rw [Expr.pieces, tokensOf_parenthesized, (forms_pieces r e h).spans.placed_parens] at hplaced
    rw [Expr.isFaithful]
    exact faithful_of_guarded e h _ _ hplaced hguard

theorem areFaithful_of_guarded : (es : List Expr) → Expr.areRawFree es = true → ∀ i n,
    Placed f i n (commas ((itemPhrases r es).map Prod.fst)) →
      Condition.GuardedMembers f (Expr.itemConditions r es) i → Expr.areFaithful es = true
  | [], _, _, _, _, _ => rfl
  | e :: es, h, i, n, hplaced, hguard => by
    rw [Expr.areRawFree, Bool.and_eq_true] at h
    have he := forms_pieces r e h.1
    obtain ⟨hpe, hrest⟩ := placed_commas (x := (tokensOf r e.pieces, e.condition r)) he hplaced
    rw [Expr.areFaithful, Bool.and_eq_true]
    exact ⟨faithful_of_guarded e h.1 _ _ hpe hguard.1,
      areFaithful_of_guarded es h.2 _ _ hrest hguard.2⟩
end

end Faithful

/-! ### What is faithful is read back -/

/-- Tokens that make a chain longer, whatever stands in front of their operator. -/
def Extends (op : BinaryOp) (us : List Token) (d : Condition) : Prop :=
  ∀ ts c, Phrase op.strength ts c → Phrase op.strength (ts ++ .op op :: us) (.apply op c d)

theorem Phrase.extends {op : BinaryOp} (hop : op.isLogical = true) {us : List Token} {d : Condition}
    (h : Phrase (op.strength + 1) us d) : Extends op us d := by
  intro ts c hc
  have hboth := Phrase.binary op (Nat.le_refl _) hc h
  rwa [tokens_of_isLogical hop] at hboth

/-- A chain can be taken apart from the left, however it was put together. -/
theorem Extends.chain {op : BinaryOp} (hop : op.isLogical = true) {us vs : List Token}
    {c d : Condition} (hc : Extends op us c) (hd : Extends op vs d) :
    Extends op (us ++ .op op :: vs) (.apply op c d) := by
  intro ts b hb
  have hall := hd _ _ (hc ts b hb)
  rwa [Condition.apply_assoc hop, List.append_assoc] at hall

section Phrase

variable (r : Reading)

/-- An expression is read back, also as a member of a chain if it can stand there without
parentheses. -/
structure ReadsBack (e : Expr) : Prop where
  phrase : Phrase e.strength (tokensOf r e.pieces) (e.condition r)
  member : ∀ op : BinaryOp, op.isLogical = true → e.needsParens op = false →
    Extends op (tokensOf r e.pieces) (e.condition r)

variable {r}

theorem ReadsBack.parens {e : Expr} (h : ReadsBack r e) {p : Nat} (hp : p ≤ atomStrength) :
    Phrase p (tokensOf r (parenthesized e.pieces)) (e.condition r) := by
  rw [tokensOf_parenthesized]
  exact .parens hp (h.phrase.weaken e.strength_bounds.1)

/-- An operand, with or without parentheses. -/
theorem ReadsBack.operand {e : Expr} (h : ReadsBack r e) {p : Nat} (hp : p ≤ atomStrength) (b : Bool)
    (hb : b = false → p ≤ e.strength) :
    Phrase p (tokensOf r (parenthesizedIf b e.pieces)) (e.condition r) := by
  cases b with
  | true => exact h.parens hp
  | false => exact h.phrase.weaken (hb rfl)

/-- A member of a chain, with or without parentheses. -/
theorem ReadsBack.extends {e : Expr} (h : ReadsBack r e) {op : BinaryOp}
    (hop : op.isLogical = true) :
    Extends op (tokensOf r (parenthesizedIf (e.needsParens op) e.pieces)) (e.condition r) := by
  cases hneeds : e.needsParens op with
  | true =>
    have hstrength : op.strength + 1 ≤ atomStrength := by cases op <;> decide
    exact (h.parens hstrength).extends hop
  | false => exact h.member op hop hneeds

/-- What is no chain itself is a member of any chain. -/
theorem readsBack_of_phrase {e : Expr} (hno : ∀ op f g, e ≠ .binary op f g)
    (h : Phrase e.strength (tokensOf r e.pieces) (e.condition r)) : ReadsBack r e := by
  refine ⟨h, fun op hop hneeds => ?_⟩
  rcases Expr.member_of_needsParens hop hneeds with ⟨f, g, rfl⟩ | hstrong
  · exact absurd rfl (hno op f g)
  · exact (h.weaken hstrong).extends hop

theorem readsBack_chain {op : BinaryOp} (hop : op.isLogical = true) {e g : Expr}
    (he : ReadsBack r e) (hg : ReadsBack r g) : ReadsBack r (.binary op e g) := by
  have htokens : tokensOf r (Expr.binary op e g).pieces
      = tokensOf r (parenthesizedIf (e.needsParens op) e.pieces)
        ++ .op op :: tokensOf r (parenthesizedIf (g.needsParens op) g.pieces) := by
    rw [tokensOf_binary, tokens_of_isLogical hop, List.singleton_append]
  refine ⟨?_, fun op' _ hneeds => ?_⟩
  · -- The right operand may be a chain of the same operator. It is taken apart from the left, so
    -- that its members are added to the left operand one by one.
    have hstrength : op.strength ≤ atomStrength := by cases op <;> decide
    have hleft := he.operand hstrength (e.needsParens op) fun hneeds => by
      rcases Expr.member_of_needsParens hop hneeds with ⟨f, g, rfl⟩ | hstrong
      · exact Nat.le_refl _
      · omega
    rw [htokens, Expr.condition]
    exact hg.extends hop _ _ hleft
  · obtain rfl : op = op' := by
      rw [Expr.needsParens, hop, Bool.true_and, Bool.or_eq_false_iff] at hneeds
      exact Classical.not_not.1 (of_decide_eq_false hneeds.1)
    rw [htokens, Expr.condition]
    exact (he.extends hop).chain hop (hg.extends hop)

/-- An operator that is no chain, between operands that bind strongly enough. -/
theorem readsBack_binary {op : BinaryOp} (hop : op.isLogical = false) {e g : Expr}
    (he : ReadsBack r e) (hg : ReadsBack r g) (hfite : e.fits op op.strength = true)
    (hfitg : g.fits op (op.strength + 1) = true) : ReadsBack r (.binary op e g) := by
  have hfit {p : Nat} {h : Expr} (hh : h.fits op p = true) (hneeds : h.needsParens op = false) :
      p ≤ h.strength := by
    rw [Expr.fits, hneeds, Bool.false_or] at hh
    exact of_decide_eq_true hh
  have hstrength : op.strength + 1 ≤ atomStrength := by cases op <;> decide
  have hphrase : Phrase op.strength (tokensOf r (Expr.binary op e g).pieces)
      ((Expr.binary op e g).condition r) := by
    rw [tokensOf_binary, Expr.condition]
    exact .binary op (Nat.le_refl _) (he.operand (by omega) _ (hfit hfite))
      (hg.operand hstrength _ (hfit hfitg))
  refine ⟨hphrase, fun op' hop' _ => ?_⟩
  have hstrong : notStrength ≤ op.strength := by cases op <;> first | decide | cases hop
  exact (hphrase.weaken (Nat.le_trans (strength_of_isLogical hop').2 hstrong)).extends hop'

mutual
/-- Faithful expressions are read back. -/
theorem readsBack_of_isFaithful : (e : Expr) → e.isRawFree = true → e.isFaithful = true →
    ReadsBack r e
  | .column c, _, _ => readsBack_of_phrase nofun (.column _ _ (Nat.le_refl _))
  | .argument a, _, _ => by
    refine readsBack_of_phrase nofun ?_
    rw [Expr.pieces, tokensOf_cons, tokensOf_nil, List.append_nil]
    cases r with
    | prepared => exact .argument a (Nat.le_refl _)
    | inlined => exact .literal a.value (Nat.le_refl _)
  | .raw _, h, _ => nomatch h
  | .binary op e g, h, hfaithful => by
    rw [Expr.isRawFree, Bool.and_eq_true] at h
    rw [Expr.isFaithful, Bool.and_eq_true, Bool.and_eq_true] at hfaithful
    have he := readsBack_of_isFaithful e h.1 hfaithful.1.1
    have hg := readsBack_of_isFaithful g h.2 hfaithful.1.2
    have hfits := hfaithful.2
    cases hop : op.isLogical with
    | true => exact readsBack_chain hop he hg
    | false =>
      rw [hop, Bool.false_or, Bool.and_eq_true] at hfits
      exact readsBack_binary hop he hg hfits.1 hfits.2
  | .not e, h, hfaithful => by
    rw [Expr.isRawFree] at h
    rw [Expr.isFaithful] at hfaithful
    refine readsBack_of_phrase nofun ?_
    rw [tokensOf_not]
    refine .not (Nat.le_refl _) ((readsBack_of_isFaithful e h hfaithful).operand (by decide) _ ?_)
    intro hbinary
    cases e with
    | binary op e g => cases hbinary
    | _ => simp [Expr.strength, notStrength, atomStrength]
  | .isNull negated e, h, hfaithful => by
    rw [Expr.isRawFree] at h
    rw [Expr.isFaithful, Bool.and_eq_true] at hfaithful
    have he := readsBack_of_isFaithful e h hfaithful.1
    refine readsBack_of_phrase nofun ?_
    rw [tokensOf_isNull]
    exact .isNull negated (Nat.le_refl _) (he.phrase.weaken (of_decide_eq_true hfaithful.2))
  | .inList negated e items, h, hfaithful => by
    rw [Expr.isRawFree, Bool.and_eq_true] at h
    rw [Expr.isFaithful, Bool.and_eq_true, Bool.and_eq_true] at hfaithful
    have he := readsBack_of_isFaithful e h.1 hfaithful.1.1
    refine readsBack_of_phrase nofun ?_
    rw [tokensOf_inList_pieces, Expr.condition, ← map_snd_itemPhrases]
    exact .inList negated _ (Nat.le_refl _) (he.phrase.weaken (of_decide_eq_true hfaithful.1.2))
      (phrases_of_areFaithful items h.2 hfaithful.2)
  | .between negated e low high, h, hfaithful => by
    rw [Expr.isRawFree, Bool.and_eq_true, Bool.and_eq_true] at h
    simp only [Expr.isFaithful, Bool.and_eq_true, decide_eq_true_eq] at hfaithful
    obtain ⟨⟨⟨he, hlow⟩, hhigh⟩, ⟨hstrong, hstronglow⟩, hstronghigh⟩ := hfaithful
    have hreads := readsBack_of_isFaithful e h.1.1 he
    have hreadslow := readsBack_of_isFaithful low h.1.2 hlow
    have hreadshigh := readsBack_of_isFaithful high h.2 hhigh
    refine readsBack_of_phrase nofun ?_
    rw [tokensOf_between]
    exact .between negated (Nat.le_refl _) (hreads.phrase.weaken hstrong)
      (hreadslow.phrase.weaken hstronglow) (hreadshigh.phrase.weaken hstronghigh)
  | .paren e, h, hfaithful => by
    rw [Expr.isRawFree] at h
    rw [Expr.isFaithful] at hfaithful
    exact readsBack_of_phrase nofun
      ((readsBack_of_isFaithful e h hfaithful).parens (Nat.le_refl _))

theorem phrases_of_areFaithful : (es : List Expr) → Expr.areRawFree es = true →
    Expr.areFaithful es = true → ∀ x ∈ itemPhrases r es, Phrase 1 x.1 x.2
  | [], _, _ => nofun
  | e :: es, h, hfaithful => by
    rw [Expr.areRawFree, Bool.and_eq_true] at h
    rw [Expr.areFaithful, Bool.and_eq_true] at hfaithful
    have he := readsBack_of_isFaithful e h.1 hfaithful.1
    exact List.forall_mem_cons.2 ⟨he.phrase.weaken e.strength_bounds.1,
      phrases_of_areFaithful es h.2 hfaithful.2⟩
end

end Phrase

/-! ### Both together -/

/-- What has been written says a condition. -/
def Builder.Means (b : Builder) (c : Condition) : Prop :=
  ReadAs b.dialect.quote b.arguments b.sql c

/-- The grammar forms what an expression says exactly if it is faithful. -/
theorem phrase_iff_isFaithful (r : Reading) {e : Expr} (h : e.isRawFree = true) :
    Phrase 1 (tokensOf r e.pieces) (e.condition r) ↔ e.isFaithful = true := by
  constructor
  · intro hphrase
    obtain ⟨f, hf⟩ := exists_placed 0 0 (tokensOf r e.pieces)
    exact faithful_of_guarded r e h 0 0 hf (hphrase.guarded 0 0 hf).1
  · intro hfaithful
    exact (readsBack_of_isFaithful e h hfaithful).phrase.weaken e.strength_bounds.1

/-- What is written for an expression means what the tokens of its pieces form. -/
theorem means_append_pieces (d : Dialect) (r : Reading) {e : Expr} (h : e.isRawFree = true)
    (c : Condition) : ((Builder.empty d r).append e.pieces).Means c ↔
      Phrase 1 (tokensOf r e.pieces) c := by
  rw [← readAs_textOf d r (Expr.spaced_pieces e h)]
  simp [Builder.Means, Builder.append, Builder.empty]

/-- **Faithful expressions are read back, and no others.** In every dialect, with placeholders or
with literals, what is written for an expression without raw fragments says what the expression
says, and nothing else, exactly if every operand that is written without parentheses binds as
strongly as it must. Otherwise the text does not say it. -/
theorem readBack_iff (d : Dialect) (r : Reading) {e : Expr} (h : e.isRawFree = true) :
    let written := (Builder.empty d r).append e.pieces
    (e.isFaithful = true → ∀ c, written.Means c ↔ c = e.condition r) ∧
      (e.isFaithful = false → ¬ written.Means (e.condition r)) := by
  have hfaithful := phrase_iff_isFaithful r h
  refine ⟨fun he c => ?_, fun he hmeans => ?_⟩
  · rw [means_append_pieces d r h]
    have hphrase := hfaithful.2 he
    exact ⟨fun hc => hc.unique hphrase, fun hc => hc ▸ hphrase⟩
  · rw [means_append_pieces d r h, hfaithful, he] at hmeans
    cases hmeans

/-- Visits are unknown or out of bounds, and a multiple of them is not too large. -/
def visitsFilter : Expr :=
  let visits := Expr.column ⟨"users", "visits", .integer⟩
  let limit := Expr.argument ⟨.integer, .int 10⟩
  .binary .and
    (.binary .or (.isNull false visits) (.between true (.binary .add visits limit) limit limit))
    (.not (.binary .gt (.binary .mul (.binary .add visits limit) limit) visits))

theorem readBack_visitsFilter :
    let written := (Builder.empty .mysql .prepared).append visitsFilter.pieces
    written.sql = "(users.visits IS NULL OR users.visits + ? NOT BETWEEN ? AND ?) AND "
        ++ "NOT ((users.visits + ?) * ? > users.visits)" ∧
      visitsFilter.isRawFree = true ∧ visitsFilter.isFaithful = true ∧
        ∀ c, written.Means c ↔ c = visitsFilter.condition .prepared :=
  ⟨by decide, by decide, by decide, (readBack_iff .mysql .prepared (by decide)).1 (by decide)⟩

/-- What is tested by `IS NULL` is written without parentheses, so that only the last part of a
disjunction is tested. -/
theorem disjunction_not_readBack :
    let a := Expr.column ⟨"t", "a", .boolean⟩
    let b := Expr.column ⟨"t", "b", .boolean⟩
    let e := Expr.isNull false (.binary .or a b)
    let written := (Builder.empty .generic .prepared).append e.pieces
    e.isRawFree = true ∧ written.sql = "t.a OR t.b IS NULL" ∧
      ¬ written.Means (e.condition .prepared) ∧
      written.Means ((Expr.binary .or a (.isNull false b)).condition .prepared) := by
  intro a b e written
  have hmeans (c : Condition) := means_append_pieces .generic .prepared (e := e) (by decide) c
  refine ⟨by decide, by decide, ?_, ?_⟩
  · rw [hmeans, phrase_iff_isFaithful .prepared (by decide)]
    decide
  · rw [hmeans]
    exact (phrase_iff_isFaithful .prepared (e := .binary .or a (.isNull false b)) (by decide)).2
      (by decide)

end SqlUpdate
