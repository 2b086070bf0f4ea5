import SqlUpdate.Expr.Basic
import SqlUpdate.Proofs.Lexical.Pieces
/-!
# Words and signs

Outside its quoted regions a text is made of words, numbers, operators and punctuation. A word in
upper-case letters belongs to the language, and any other word is a name.

* `Token` — what a text is made of.
* `tokens` — the tokens that the lexemes of a text form.
* `tokens_append` — texts that are kept apart form their tokens one after the other.
* `bindArguments` — arguments in the places of placeholders.
-/

namespace SqlUpdate

/-- A word or a sign. -/
inductive Token where
  /-- A name, quoted or not. -/
  | name (cs : List Char)
  /-- Digits. -/
  | number (cs : List Char)
  /-- A literal as it is written, other than a number. -/
  | literal (cs : List Char)
  /-- A placeholder. -/
  | placeholder
  /-- A placeholder with the argument that it stands for. -/
  | argument (a : Argument)
  /-- An operator of one word or sign. -/
  | op (o : BinaryOp)
  | notWord
  | isWord
  | nullWord
  | inWord
  | betweenWord
  | rownumWord
  | opening
  | closing
  | comma
  | point
  /-- Any other word of the language. -/
  | keyword (cs : List Char)
  deriving DecidableEq, Repr

/-- Whether a character can stand in a word. -/
def isWordChar (c : Char) : Bool := c.isAlphanum || c == '_'

/-- Whether a character belongs to the word or sign in front of it. -/
def continues (word : List Char) (c : Char) : Bool :=
  word.getLast?.any fun b =>
    (isWordChar b && isWordChar c) || (c == '=' && ['!', '<', '>'].contains b)

/-- The words and signs with a meaning of their own. -/
def fixedTokens : List (List Char × Token) :=
  [("=", .op .eq), ("!=", .op .ne), ("<", .op .lt), ("<=", .op .le), (">", .op .gt),
    (">=", .op .ge), ("LIKE", .op .like), ("AND", .op .and), ("OR", .op .or), ("+", .op .add),
    ("-", .op .sub), ("*", .op .mul), ("/", .op .div), ("?", .placeholder), ("NOT", .notWord),
    ("IS", .isWord), ("NULL", .nullWord), ("IN", .inWord), ("BETWEEN", .betweenWord),
    ("ROWNUM", .rownumWord), ("(", .opening), (")", .closing), (",", .comma), (".", .point),
    ("TRUE", .literal "TRUE".toList), ("FALSE", .literal "FALSE".toList),
    ("NaN", .literal "NaN".toList)].map fun t => (t.1.toList, t.2)

/-- The token of a word or a sign. -/
def classify (word : List Char) : Token :=
  if word.head?.any isNameStart then .name word
  else if word.head?.any Char.isDigit then .number word
  else (fixedTokens.lookup word).getD (.keyword word)

/-- The token of a word that has ended. -/
def ended (word : List Char) : List Token := if word.isEmpty then [] else [classify word]

/-- The tokens of a text behind the first characters of a word. -/
def tokensFrom : List Char → List Lexeme → List Token
  | word, [] => ended word
  | word, .bare c :: ls =>
    if continues word c then tokensFrom (word ++ [c]) ls
    else ended word ++ tokensFrom (if c = ' ' then [] else [c]) ls
  | word, .quoted quote content :: ls =>
    if quote ≠ Value.singleQuote then ended word ++ .name content :: tokensFrom [] ls
    else if word = ['X'] then
      .literal ('X' :: Quoted.enclosed quote content) :: tokensFrom [] ls
    else ended word ++ .literal (Quoted.enclosed quote content) :: tokensFrom [] ls

/-- The tokens that lexemes form. -/
def tokens (ls : List Lexeme) : List Token := tokensFrom [] ls

/-! ### Texts that are kept apart -/

theorem isWordChar_of_isBreak {c : Char} (h : isBreak c = true) : isWordChar c = false := by
  simp only [isBreak, Bool.or_eq_true, beq_iff_eq] at h
  rcases h with (((rfl | rfl) | rfl) | rfl) | rfl <;> decide

theorem ne_equals_of_isBreak {c : Char} (h : isBreak c = true) : (c == '=') = false := by
  rw [beq_eq_false_iff_ne]
  rintro rfl
  exact absurd h (by decide)

/-- No word goes on with a character that keeps apart. -/
theorem continues_break (word : List Char) {c : Char} (h : isBreak c = true) :
    continues word c = false := by
  rw [continues, Option.any_eq_false]
  intro b _
  rw [isWordChar_of_isBreak h, ne_equals_of_isBreak h, Bool.and_false, Bool.false_and]
  rfl

/-- Nothing goes on behind a character that keeps apart. -/
theorem break_continues {b : Char} (h : isBreak b = true) (c : Char) : continues [b] c = false := by
  have hb : ['!', '<', '>'].contains b = false := by
    simp only [isBreak, Bool.or_eq_true, beq_iff_eq] at h
    rcases h with (((rfl | rfl) | rfl) | rfl) | rfl <;> decide
  show ((isWordChar b && isWordChar c) || (c == '=' && ['!', '<', '>'].contains b)) = false
  rw [isWordChar_of_isBreak h, hb, Bool.false_and, Bool.and_false]
  rfl

/-- Whether a word is over before what follows. -/
def WordEnds (word : List Char) (ls : List Lexeme) : Prop :=
  StartsWithBreak ls ∨ word = [] ∨ ∃ b, isBreak b = true ∧ word = [b]

/-- The tokens behind a word that is over. -/
theorem tokensFrom_of_wordEnds {word : List Char} {ls : List Lexeme} (h : WordEnds word ls) :
    tokensFrom word ls = ended word ++ tokens ls := by
  rcases h with ⟨c, hc, hhead⟩ | rfl | ⟨b, hb, rfl⟩
  · cases ls with
    | nil => cases hhead
    | cons l ls =>
      obtain rfl : l = .bare c := Option.some.inj hhead
      rw [tokens, tokensFrom, tokensFrom, continues_break word hc, continues_break [] hc]
      rfl
  · rfl
  · cases ls with
    | nil => exact (List.append_nil _).symm
    | cons l ls =>
      cases l with
      | bare c =>
        rw [tokens, tokensFrom, tokensFrom, break_continues hb]
        rfl
      | quoted quote content =>
        have hX : ([b] : List Char) ≠ ['X'] := by
          intro hX
          rw [List.singleton_inj.1 hX] at hb
          exact absurd hb (by decide)
        rw [tokens, tokensFrom, tokensFrom]
        by_cases hq : quote ≠ Value.singleQuote
        · rw [if_pos hq, if_pos hq]
          rfl
        · rw [if_neg hq, if_neg hq, if_neg hX, if_neg (List.cons_ne_nil _ _).symm]
          rfl

/-- Lexemes that end or start apart from others form their tokens on their own. -/
theorem tokensFrom_append (word : List Char) (ls : List Lexeme) {ms : List Lexeme}
    (h : EndsWithBreak ls ∨ StartsWithBreak ms) :
    tokensFrom word (ls ++ ms) = tokensFrom word ls ++ tokens ms := by
  induction ls generalizing word with
  | nil =>
    rcases h with ⟨c, -, hc⟩ | hms
    · cases hc
    · exact tokensFrom_of_wordEnds (.inl hms)
  | cons l ls ih =>
    -- Behind the last character of all, a word is over if that character keeps apart.
    have next (word' : List Char)
        (hlast : ls = [] → ∀ c, isBreak c = true → l = .bare c → WordEnds word' ms) :
        tokensFrom word' (ls ++ ms) = tokensFrom word' ls ++ tokens ms := by
      rcases h with ⟨c, hc, hend⟩ | hms
      · cases ls with
        | nil => exact tokensFrom_of_wordEnds (hlast rfl c hc (Option.some.inj hend))
        | cons m ls => exact ih word' (.inl ⟨c, hc, by rwa [List.getLast?_cons_cons] at hend⟩)
      · exact ih word' (.inr hms)
    cases l with
    | bare c =>
      rw [List.cons_append, tokensFrom, tokensFrom]
      split
      · rename_i hcont
        refine next _ fun _ b hb hl => ?_
        obtain rfl : c = b := Lexeme.bare.inj hl
        rw [continues_break word hb] at hcont
        cases hcont
      · rw [List.append_assoc, next _ fun _ b hb hl => ?_]
        obtain rfl : c = b := Lexeme.bare.inj hl
        split
        · exact .inr (.inl rfl)
        · exact .inr (.inr ⟨c, hb, rfl⟩)
    | quoted quote content =>
      have hrest := next [] fun _ _ _ hl => nomatch hl
      rw [List.cons_append, tokensFrom, tokensFrom, hrest]
      split
      · rw [List.append_assoc, List.cons_append]
      · split
        · rfl
        · rw [List.append_assoc, List.cons_append]

/-- Texts that are kept apart form their tokens one after the other. -/
theorem tokens_append {ls ms : List Lexeme} (h : EndsWithBreak ls ∨ StartsWithBreak ms) :
    tokens (ls ++ ms) = tokens ls ++ tokens ms := tokensFrom_append [] ls h

end SqlUpdate
