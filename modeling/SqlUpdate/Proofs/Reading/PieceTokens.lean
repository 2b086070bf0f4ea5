import SqlUpdate.Proofs.Lexical.Safety
import SqlUpdate.Proofs.Reading.Token
/-!
# The tokens of a statement

* `tokens_word` — a run of word characters is one token.
* `LiteralTokens`, `literalTokens_lexemes` — the tokens of a literal.
* `tokensOf` — the tokens of a list of pieces.
* `bindArguments_tokens` — the tokens of a text are those of its pieces, with the arguments in the
  places of their placeholders.
-/

namespace SqlUpdate

/-! ### Words -/

theorem continues_append (word : List Char) {b c : Char} (hb : isWordChar b = true)
    (hc : isWordChar c = true) : continues (word ++ [b]) c = true := by
  rw [continues, List.getLast?_append, List.getLast?_singleton]
  show ((isWordChar b && isWordChar c) || _) = true
  rw [hb, hc]
  rfl

/-- A word goes on as long as word characters follow. -/
theorem tokensFrom_word (word : List Char) {b : Char} {w : List Char} (hb : isWordChar b = true)
    (hw : ∀ c ∈ w, isWordChar c = true) :
    tokensFrom (word ++ [b]) (w.map .bare) = [classify (word ++ b :: w)] := by
  induction w generalizing word b with
  | nil =>
    rw [List.map_nil, tokensFrom, ended, if_neg (by simp)]
  | cons c w ih =>
    have hc := hw c List.mem_cons_self
    have hrest := ih (word ++ [b]) hc fun x hx => hw x (List.mem_cons_of_mem _ hx)
    rw [List.map_cons, tokensFrom, if_pos (continues_append word hb hc), hrest,
      List.append_assoc, List.singleton_append]

/-- A sign in front of word characters is a token of its own. -/
theorem tokensFrom_sign {c : Char} {w : List Char} (hc : isWordChar c = false) (hne : w ≠ [])
    (hw : ∀ b ∈ w, isWordChar b = true) :
    tokensFrom [c] (w.map .bare) = [classify [c], classify w] := by
  cases w with
  | nil => exact absurd rfl hne
  | cons b w =>
    have hb := hw b List.mem_cons_self
    have heq : (b == '=') = false := by
      rw [beq_eq_false_iff_ne]
      rintro rfl
      exact absurd hb (by decide)
    have hspace : b ≠ ' ' := by
      rintro rfl
      exact absurd hb (by decide)
    have hcont : continues [c] b = false := by
      show ((isWordChar c && isWordChar b) || (b == '=' && ['!', '<', '>'].contains c)) = false
      rw [hc, heq]
      rfl
    have hrest := tokensFrom_word [] hb fun x hx => hw x (List.mem_cons_of_mem _ hx)
    rw [List.nil_append, List.nil_append] at hrest
    rw [List.map_cons, tokensFrom, hcont, if_neg hspace]
    show ended [c] ++ tokensFrom [b] (w.map .bare) = _
    rw [hrest]
    rfl

/-- A run of word characters is one token. -/
theorem tokens_word {w : List Char} (hne : w ≠ []) (hw : ∀ c ∈ w, isWordChar c = true) :
    tokens (w.map .bare) = [classify w] := by
  cases w with
  | nil => exact absurd rfl hne
  | cons b w =>
    have hb := hw b List.mem_cons_self
    have hspace : b ≠ ' ' := by
      rintro rfl
      exact absurd hb (by decide)
    have hrest := tokensFrom_word [] hb fun x hx => hw x (List.mem_cons_of_mem _ hx)
    rw [List.nil_append, List.nil_append] at hrest
    rw [tokens, List.map_cons, tokensFrom, if_neg hspace]
    exact hrest

theorem isWordChar_of_isDigit {c : Char} (h : c.isDigit = true) : isWordChar c = true := by
  rw [isWordChar, Char.isAlphanum, h, Bool.or_true, Bool.true_or]

theorem isWordChar_of_isNameChar {c : Char} (h : isNameChar c = true) : isWordChar c = true := by
  rw [isNameChar, Bool.or_eq_true, Bool.or_eq_true] at h
  rcases h with (h | h) | h
  · rw [isWordChar, isAlphanum_of_isLower h, Bool.true_or]
  · exact isWordChar_of_isDigit h
  · rw [isWordChar, h, Bool.or_true]

theorem classify_digits {ds : List Char} (h : IsDigits ds) : classify ds = .number ds := by
  cases ds with
  | nil => exact absurd rfl h.ne_nil
  | cons c ds =>
    have hc : c.isDigit = true := h.isDigit c List.mem_cons_self
    have hstart : isNameStart c = false := isNameStart_of_isDigit hc
    show (if isNameStart c then _ else if c.isDigit then _ else _) = _
    rw [hstart, hc]
    rfl

theorem tokens_digits {ds : List Char} (h : IsDigits ds) :
    tokens (ds.map .bare) = [.number ds] := by
  rw [tokens_word h.ne_nil fun c hc => isWordChar_of_isDigit (h.isDigit c hc), classify_digits h]

/-! ### Literals -/

/-- The tokens of an unsigned number and its characters. -/
inductive UnsignedTokens : List Token → List Char → Prop where
  | whole (ds : List Char) : UnsignedTokens [.number ds] ds
  | decimal (ds es : List Char) :
    UnsignedTokens [.number ds, .point, .number es] (ds ++ '.' :: es)
  | infinity : UnsignedTokens [.name ['i', 'n', 'f']] ['i', 'n', 'f']

/-- The tokens of a literal and its characters. -/
inductive LiteralTokens : List Token → List Char → Prop where
  | null : LiteralTokens [.nullWord] ['N', 'U', 'L', 'L']
  | word (cs : List Char) : LiteralTokens [.literal cs] cs
  | positive {ts : List Token} {cs : List Char} : UnsignedTokens ts cs → LiteralTokens ts cs
  | negative {ts : List Token} {cs : List Char} :
    UnsignedTokens ts cs → LiteralTokens (.op .sub :: ts) ('-' :: cs)

/-- The tokens of an unsigned number. Behind a sign they are the same. -/
theorem unsignedTokens {cs : List Char} (h : IsUnsigned cs) :
    ∃ ts, UnsignedTokens ts cs ∧ tokens (cs.map .bare) = ts ∧
      tokens (('-' :: cs).map .bare) = .op .sub :: ts := by
  have hsign : isWordChar '-' = false := by decide
  have hdigits {ds : List Char} (hds : IsDigits ds) : ∀ c ∈ ds, isWordChar c = true :=
    fun c hc => isWordChar_of_isDigit (hds.isDigit c hc)
  have hnegative {w : List Char} (hne : w ≠ []) (hw : ∀ c ∈ w, isWordChar c = true) :
      tokens (('-' :: w).map .bare) = [.op .sub, classify w] :=
    tokensFrom_sign hsign hne hw
  cases h with
  | whole hds =>
    refine ⟨_, .whole cs, tokens_digits hds, ?_⟩
    rw [hnegative hds.ne_nil (hdigits hds), classify_digits hds]
  | infinity => exact ⟨_, .infinity, by decide, by decide⟩
  | @decimal ds es hds hes =>
    -- The point keeps the two runs of digits apart.
    have hpoint : isBreak '.' = true := by decide
    have hfraction : tokens ('.' :: es |>.map .bare) = [.point, .number es] := by
      have happend : tokens ([.bare '.'] ++ es.map .bare) = tokens [.bare '.'] ++ _ :=
        tokens_append (.inl ⟨'.', hpoint, rfl⟩)
      rw [tokens_digits hes] at happend
      exact happend
    have hsplit (w : List Char) : tokens ((w ++ '.' :: es).map .bare)
        = tokens (w.map .bare) ++ [.point, .number es] := by
      rw [List.map_append, tokens_append (.inr ⟨'.', hpoint, rfl⟩), hfraction]
    refine ⟨_, .decimal ds es, ?_, ?_⟩
    · rw [hsplit, tokens_digits hds]
      rfl
    · rw [← List.cons_append, hsplit, hnegative hds.ne_nil (hdigits hds), classify_digits hds]
      rfl

/-- The tokens of the literal of a value. -/
theorem literalTokens_lexemes (v : Value) :
    LiteralTokens (tokens v.lexemes) v.literal.toList := by
  have hbare (hv : v.isQuoted = false) (hl : v.lexemes = v.literal.toList.map .bare) :
      LiteralTokens (tokens v.lexemes) v.literal.toList := by
    have hliteral := Value.bareLiteral_of_not_quoted hv
    rw [hl]
    generalize v.literal.toList = cs at hliteral
    cases hliteral with
    | null => exact .null
    | true => exact .word _
    | false => exact .word _
    | nan => exact .word _
    | number negative hcs =>
      obtain ⟨ts, hts, hplain, hsigned⟩ := unsignedTokens hcs
      cases negative with
      | false =>
        show LiteralTokens (tokens _) _
        rw [signed, if_neg Bool.false_ne_true, hplain]
        exact .positive hts
      | true =>
        rw [signed, if_pos rfl, hsigned]
        exact .negative hts
  cases v with
  | null => exact hbare rfl rfl
  | bool b => exact hbare rfl rfl
  | int i => exact hbare rfl rfl
  | float x => exact hbare rfl rfl
  | text s =>
    rw [Value.literal, String.toList_ofList]
    exact .word _
  | blob bytes =>
    rw [Value.literal, String.toList_ofList]
    exact .word _

/-! ### Pieces -/

/-- The tokens of a piece. -/
def Piece.tokens (r : Reading) : Piece → List Token
  | .sql s | .raw s => SqlUpdate.tokens (s.toList.map .bare)
  | .name s => [.name s.toList]
  | .argument a =>
    match r with
    | .prepared => [.argument a]
    | .inlined => SqlUpdate.tokens a.value.lexemes
  | .literal v => SqlUpdate.tokens v.lexemes

/-- The tokens of a list of pieces. -/
def tokensOf (r : Reading) (ps : List Piece) : List Token := ps.flatMap (Piece.tokens r)

@[simp] theorem tokensOf_nil (r : Reading) : tokensOf r [] = [] := rfl

@[simp] theorem tokensOf_cons (r : Reading) (p : Piece) (ps : List Piece) :
    tokensOf r (p :: ps) = p.tokens r ++ tokensOf r ps := rfl

@[simp] theorem tokensOf_append (r : Reading) (ps qs : List Piece) :
    tokensOf r (ps ++ qs) = tokensOf r ps ++ tokensOf r qs := List.flatMap_append

/-- A literal in place of an argument has the tokens of the inlined argument. -/
theorem tokens_inlined (r : Reading) (p : Piece) : p.inlined.tokens r = p.tokens .inlined := by
  cases p <;> rfl

theorem tokensOf_map_inlined (r : Reading) (ps : List Piece) :
    tokensOf r (ps.map Piece.inlined) = tokensOf .inlined ps := by
  rw [tokensOf, tokensOf, List.flatMap_map]
  exact congrArg (List.flatMap · ps) (funext (tokens_inlined r))

theorem tokens_natural (r : Reading) (n : Nat) :
    (numberPiece n).tokens r = [.number (Decimal.digits n)] := by
  rw [numberPiece, Piece.tokens, Decimal.natural, String.toList_ofList]
  exact tokens_digits (isDigits_digits n)

theorem tokens_aliasPiece (n : Nat) :
    (aliasPiece n).tokens .prepared = [.name ('c' :: Decimal.digits n)] := by
  have hchars : ("c" ++ Decimal.natural n).toList = 'c' :: Decimal.digits n := by
    have hdigits : (Decimal.natural n).toList = Decimal.digits n := by
      rw [Decimal.natural, String.toList_ofList]
    rw [String.toList_append, hdigits]
    rfl
  have hword : ∀ c ∈ 'c' :: Decimal.digits n, isWordChar c = true := by
    intro c hc
    rcases List.mem_cons.1 hc with rfl | hc
    · decide
    · exact isWordChar_of_isDigit (Decimal.isDigit_of_mem_digits hc)
  rw [aliasPiece, Piece.tokens, hchars, tokens_word (List.cons_ne_nil _ _) hword]
  rfl

/-! ### Placeholders -/

/-- The tokens with arguments in the places of the first placeholders. -/
def bindArguments : List Argument → List Token → List Token
  | _, [] => []
  | a :: as, .placeholder :: ts => .argument a :: bindArguments as ts
  | as, t :: ts => t :: bindArguments as ts

/-- Tokens other than placeholders stay as they are. -/
theorem bindArguments_append (as : List Argument) {ts : List Token} (us : List Token)
    (h : .placeholder ∉ ts) : bindArguments as (ts ++ us) = ts ++ bindArguments as us := by
  induction ts with
  | nil => rfl
  | cons t ts ih =>
    have ht : t ≠ .placeholder := fun ht => h (ht ▸ List.mem_cons_self)
    have hrest := ih fun hmem => h (List.mem_cons_of_mem _ hmem)
    rw [List.cons_append, bindArguments.eq_3 as t (ts ++ us) fun _ _ _ ht' => ht ht', hrest]
    rfl

theorem classify_eq_placeholder {word : List Char} (h : classify word = .placeholder) :
    word = ['?'] := by
  have hfixed : ∀ t ∈ fixedTokens, t.2 = .placeholder → t.1 = ['?'] := by decide
  unfold classify at h
  split at h
  · cases h
  · split at h
    · cases h
    · cases hlookup : fixedTokens.lookup word with
      | none => rw [hlookup] at h; cases h
      | some t =>
        rw [hlookup] at h
        obtain ⟨before, after, hmem, -⟩ := List.lookup_eq_some_iff.1 hlookup
        exact hfixed (word, t) (hmem ▸ by simp) h

theorem mem_of_placeholder_mem_ended {word : List Char} (h : .placeholder ∈ ended word) :
    '?' ∈ word := by
  unfold ended at h
  split at h
  · cases h
  · rw [classify_eq_placeholder (List.mem_singleton.1 h).symm]
    exact List.mem_singleton.2 rfl

/-- Placeholders come from question marks outside of quoted regions. -/
theorem mem_of_placeholder_mem {word : List Char} {ls : List Lexeme}
    (h : .placeholder ∈ tokensFrom word ls) : '?' ∈ word ∨ .bare '?' ∈ ls := by
  induction ls generalizing word with
  | nil => exact .inl (mem_of_placeholder_mem_ended h)
  | cons l ls ih =>
    have later (hrest : .placeholder ∈ tokensFrom [] ls) : .bare '?' ∈ l :: ls :=
      List.mem_cons_of_mem _ ((ih hrest).resolve_left List.not_mem_nil)
    cases l with
    | bare c =>
      rw [tokensFrom] at h
      split at h
      · rcases ih h with hmem | hmem
        · rcases List.mem_append.1 hmem with hmem | hmem
          · exact .inl hmem
          · exact .inr (List.mem_singleton.1 hmem ▸ List.mem_cons_self)
        · exact .inr (List.mem_cons_of_mem _ hmem)
      · rcases List.mem_append.1 h with h | h
        · exact .inl (mem_of_placeholder_mem_ended h)
        · split at h
          · exact .inr (later h)
          · rcases ih h with hmem | hmem
            · exact .inr (List.mem_singleton.1 hmem ▸ List.mem_cons_self)
            · exact .inr (List.mem_cons_of_mem _ hmem)
    | quoted quote content =>
      have hword (t : Token) (ht : t ≠ .placeholder)
          (hmem : .placeholder ∈ ended word ++ t :: tokensFrom [] ls) :
          '?' ∈ word ∨ .bare '?' ∈ .quoted quote content :: ls := by
        rcases List.mem_append.1 hmem with hmem | hmem
        · exact .inl (mem_of_placeholder_mem_ended hmem)
        · exact .inr (later ((List.mem_cons.1 hmem).resolve_left ht.symm))
      rw [tokensFrom] at h
      split at h
      · exact hword (.name content) Token.noConfusion h
      · split at h
        · exact .inr (later ((List.mem_cons.1 h).resolve_left Token.noConfusion))
        · exact hword (.literal _) Token.noConfusion h

/-- A sound piece has its own tokens in a text with placeholders, but for the placeholder. -/
theorem bindArguments_lexemes (d : Dialect) {p : Piece} (h : p.isSound = true)
    (as : List Argument) (ts : List Token) :
    bindArguments (argumentsOf [p] ++ as) (tokens (p.lexemes d .prepared) ++ ts)
      = p.tokens .prepared ++ bindArguments as ts := by
  have hfixed (hr : p.argument? = none) (ht : tokens (p.lexemes d .prepared) = p.tokens .prepared) :
      bindArguments (argumentsOf [p] ++ as) (tokens (p.lexemes d .prepared) ++ ts)
        = p.tokens .prepared ++ bindArguments as ts := by
    have hno : .placeholder ∉ tokens (p.lexemes d .prepared) := by
      intro hmem
      rcases lexemes_cases d .prepared h with ⟨-, harg, -⟩ | ⟨-, hsober⟩
      · rw [hr] at harg
        cases harg
      · have hmark := (mem_of_placeholder_mem hmem).resolve_left List.not_mem_nil
        exact hsober.not_mem (by decide) (by decide) hmark
    rw [bindArguments_append _ _ hno, ht, argumentsOf, List.filterMap_cons, hr]
    rfl
  cases p with
  | sql s => exact hfixed rfl rfl
  | raw s => cases h
  | literal v => exact hfixed rfl rfl
  | argument a => rfl
  | name s =>
    refine hfixed rfl ?_
    rw [Piece.lexemes]
    split
    · rename_i hplain
      obtain ⟨hne, hchars⟩ := isPlainName_chars hplain
      rw [tokens_word hne fun c hc => isWordChar_of_isNameChar (hchars c hc), classify,
        if_pos (isPlainName_head hplain)]
      rfl
    · have hquote : d.quote ≠ Value.singleQuote := by cases d <;> decide
      rw [tokens, tokensFrom, if_pos hquote]
      rfl

/-- The tokens of a text are those of its pieces, with the arguments in the places of their
placeholders. -/
theorem bindArguments_tokens (d : Dialect) {ps : List Piece} (h : Spaced ps) :
    bindArguments (argumentsOf ps) (tokens (ps.flatMap (Piece.lexemes d .prepared)))
      = tokensOf .prepared ps := by
  induction ps with
  | nil => rfl
  | cons p ps ih =>
    have hsplit : tokens (p.lexemes d .prepared ++ ps.flatMap (Piece.lexemes d .prepared))
        = tokens (p.lexemes d .prepared) ++ tokens (ps.flatMap (Piece.lexemes d .prepared)) := by
      cases ps with
      | nil => rw [List.flatMap_nil, List.append_nil]; exact (List.append_nil _).symm
      | cons q ps =>
        refine tokens_append ?_
        rcases (List.isChain_cons_cons.1 h.apart).1 with hend | hstart
        · exact .inl (endsWithBreak_lexemes d .prepared hend)
        · obtain ⟨c, hc, hhead⟩ := startsWithBreak_lexemes d .prepared hstart
          exact .inr ⟨c, hc, by rw [List.flatMap_cons, List.head?_append, hhead]; rfl⟩
    have hargs : argumentsOf (p :: ps) = argumentsOf [p] ++ argumentsOf ps :=
      argumentsOf_append [p] ps
    rw [List.flatMap_cons, hsplit, hargs, bindArguments_lexemes d (h.sound p List.mem_cons_self),
      ih h.tail, tokensOf_cons]

end SqlUpdate
