import SqlUpdate.Proofs.Reading.Expressions
import SqlUpdate.Proofs.Lexical.Clauses
/-!
# The grammar of conditions

What a text says is fixed by a grammar with one level for each strength: `OR`, `AND`, `NOT`,
comparisons with `LIKE`, `IS NULL`, `IN` and `BETWEEN`, sums, products, and operands without any
operator. The left operand of an operator is of its own level and the right one of a higher level,
so that operators of one strength are taken from the left.

* `Phrase` — tokens that form a condition on a level.
* `Phrase.reads`, `Phrase.unique` — the reader finds what the grammar says, so tokens form one
  condition at most.
* `ReadAs` — what a text says.
-/

namespace SqlUpdate

/-- Lists of tokens with commas between them. -/
def commas : List (List Token) → List Token
  | [] => []
  | [ts] => ts
  | ts :: us :: rest => ts ++ .comma :: commas (us :: rest)

/-- Tokens that form a condition whose operators outside of parentheses bind at least with a given
strength. -/
inductive Phrase : Nat → List Token → Condition → Prop where
  | column {p : Nat} (table name : List Char) : p ≤ atomStrength →
      Phrase p [.name table, .point, .name name] (.column table name)
  | argument {p : Nat} (a : Argument) : p ≤ atomStrength → Phrase p [.argument a] (.argument a)
  /-- A literal, as it is written for some value. -/
  | literal {p : Nat} (v : Value) : p ≤ atomStrength →
      Phrase p (tokens v.lexemes) (.literal v.literal.toList)
  | parens {p : Nat} {ts : List Token} {c : Condition} : p ≤ atomStrength → Phrase 1 ts c →
      Phrase p (.opening :: (ts ++ [.closing])) c
  | not {p : Nat} {ts : List Token} {c : Condition} : p ≤ notStrength → Phrase notStrength ts c →
      Phrase p (.notWord :: ts) (.not c)
  | binary {p : Nat} {ts us : List Token} {c d : Condition} (op : BinaryOp) : p ≤ op.strength →
      Phrase op.strength ts c → Phrase (op.strength + 1) us d →
      Phrase p (ts ++ (op.tokens ++ us)) (.apply op c d)
  | isNull {p : Nat} {ts : List Token} {c : Condition} (negated : Bool) : p ≤ 4 → Phrase 4 ts c →
      Phrase p (ts ++ isNullWords negated) (.isNull negated c)
  | inList {p : Nat} {ts : List Token} {c : Condition} (negated : Bool)
      (items : List (List Token × Condition)) : p ≤ 4 → Phrase 4 ts c →
      (∀ i ∈ items, Phrase 1 i.1 i.2) →
      Phrase p (ts ++ (inWords negated ++ (commas (items.map Prod.fst) ++ [.closing])))
        (.inList negated c (items.map Prod.snd))
  /-- The bounds are sums, so that the `AND` between them is not one of theirs. -/
  | between {p : Nat} {ts us vs : List Token} {c low high : Condition} (negated : Bool) : p ≤ 4 →
      Phrase 4 ts c → Phrase 5 us low → Phrase 5 vs high →
      Phrase p (ts ++ (betweenWords negated ++ (us ++ .op .and :: vs)))
        (.between negated c low high)

/-! ### One condition at most -/

theorem readsItems_commas {items : List (List Token × Condition)} (hne : items ≠ [])
    (h : ∀ i ∈ items, Reads 1 i.1 i.2) :
    ReadsItems (commas (items.map Prod.fst) ++ [.closing]) (items.map Prod.snd) := by
  induction items with
  | nil => exact absurd rfl hne
  | cons i items ih =>
    have hi := h i List.mem_cons_self
    cases items with
    | nil => exact readsItems_singleton hi
    | cons k items =>
      have hrest := ih (List.cons_ne_nil k items) fun x hx => h x (List.mem_cons_of_mem i hx)
      show ReadsItems (i.1 ++ .comma :: commas ((k :: items).map Prod.fst) ++ [.closing]) _
      rw [List.append_assoc, List.cons_append]
      exact readsItems_cons hi hrest

/-- The reader finds what the grammar says. -/
theorem Phrase.reads {p : Nat} {ts : List Token} {c : Condition} (h : Phrase p ts c) :
    Reads p ts c := by
  induction h with
  | column table name _ => exact reads_value (List.cons_ne_nil _ _) fun _ _ _ => rfl
  | argument a _ => exact reads_value (List.cons_ne_nil _ _) fun _ _ _ => rfl
  | literal v _ => exact reads_literal _ (literalTokens_lexemes v)
  | parens _ _ ih => exact reads_parenthesized ih _
  | not hp _ ih => exact (reads_not ih).weaken hp
  | binary op hp _ _ ihl ihr => exact (reads_binary ihl (announces_operator op) ihr).weaken hp
  | isNull negated hp _ ih => exact (reads_isNull negated ih).weaken hp
  | inList negated items hp _ _ ih ihitems =>
    refine Reads.weaken ?_ hp
    cases items with
    | nil => exact reads_inList_nil negated ih
    | cons i items =>
      exact reads_inList negated ih (readsItems_commas (List.cons_ne_nil i items) ihitems)
  | between negated hp _ _ _ ih ihlow ihhigh => exact (reads_between negated ih ihlow ihhigh).weaken hp

theorem Phrase.read {p : Nat} {ts : List Token} {c : Condition} (h : Phrase p ts c) :
    readCondition (3 * ts.length + 1) p ts = some (c, []) := by
  have hend : Stops p [] := ⟨nofun, nofun⟩
  simpa using h.reads.alone hend (Nat.le_refl _)

/-- Tokens form one condition at most. -/
theorem Phrase.unique {p : Nat} {ts : List Token} {c d : Condition} (hc : Phrase p ts c)
    (hd : Phrase p ts d) : c = d := by
  have hsame := hc.read.symm.trans hd.read
  exact (Prod.mk.inj (Option.some.inj hsame)).1

theorem Phrase.weaken {p p' : Nat} {ts : List Token} {c : Condition} (h : Phrase p ts c)
    (hp : p' ≤ p) : Phrase p' ts c := by
  cases h with
  | column table name h => exact .column table name (Nat.le_trans hp h)
  | argument a h => exact .argument a (Nat.le_trans hp h)
  | literal v h => exact .literal v (Nat.le_trans hp h)
  | parens h hc => exact .parens (Nat.le_trans hp h) hc
  | not h hc => exact .not (Nat.le_trans hp h) hc
  | binary op h hc hd => exact .binary op (Nat.le_trans hp h) hc hd
  | isNull negated h hc => exact .isNull negated (Nat.le_trans hp h) hc
  | inList negated items h hc hitems => exact .inList negated items (Nat.le_trans hp h) hc hitems
  | between negated h hc hlow hhigh => exact .between negated (Nat.le_trans hp h) hc hlow hhigh

/-! ### Texts -/

/-- A text says a condition, if its placeholders stand for the given arguments. -/
def ReadAs (quote : Char) (as : List Argument) (sql : String) (c : Condition) : Prop :=
  ∃ ls, scan quote sql.toList = some ls ∧ Phrase 1 (bindArguments as (tokens ls)) c

/-- A text with literals is the text of pieces without arguments. -/
theorem textOf_map_inlined (d : Dialect) (ps : List Piece) :
    textOf d .prepared (ps.map Piece.inlined) = textOf d .inlined ps := by
  rw [textOf, textOf, List.map_map]
  exact congrArg String.join (List.map_congr_left fun p _ => Piece.text_inlined d .prepared p)

/-- A text says what the tokens of its pieces form. -/
theorem readAs_textOf (d : Dialect) (r : Reading) {ps : List Piece} (h : Spaced ps)
    (c : Condition) : ReadAs d.quote (boundArguments r ps) (textOf d r ps) c ↔
      Phrase 1 (tokensOf r ps) c := by
  have hprepared {qs : List Piece} (hqs : Spaced qs) :
      ReadAs d.quote (argumentsOf qs) (textOf d .prepared qs) c ↔
        Phrase 1 (tokensOf .prepared qs) c := by
    rw [ReadAs, scan_textOf d .prepared hqs, ← bindArguments_tokens d hqs]
    simp
  cases r with
  | prepared => exact hprepared h
  | inlined =>
    have hinlined := hprepared (spaced_map_inlined h)
    rwa [argumentsOf_map_inlined, textOf_map_inlined, tokensOf_map_inlined] at hinlined

end SqlUpdate
