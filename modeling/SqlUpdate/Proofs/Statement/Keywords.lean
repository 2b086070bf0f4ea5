import SqlUpdate.Proofs.Statement.AssignedColumns
import SqlUpdate.Proofs.Statement.Wording
/-!
# Which keywords are written as identifiers

A plain name is written bare, so a reserved word must not be plain. The reserved words are kept in
one list, and the keywords of a statement stand in the writers of expressions, joins and forms.
Twelve of these keywords are not in the list: a table or a column can be called by them, and is
then written as the keyword is, in lower case.

* `Piece.words`, `Update.words` — the words of a statement that are keywords or constants.
* `mem_words_iff` — these are exactly the `keywords`.
* `bareKeywords_iff` — which of them are written bare as names.
-/

namespace SqlUpdate

/-! ### Keywords -/

/-- The keywords and constants of statements. -/
def keywords : List String :=
  ["UPDATE", "SET", "FROM", "WHERE", "SELECT", "JOIN", "INNER", "LEFT", "RIGHT", "FULL", "CROSS",
    "ON", "AND", "OR", "NOT", "LIKE", "IS", "NULL", "IN", "BETWEEN", "TRUE", "FALSE", "LIMIT",
    "TOP", "ROWNUM", "MERGE", "INTO", "USING", "WHEN", "MATCHED", "THEN"]

/-- The words of a fixed text: its longest runs of capital letters. -/
def wordsOf (cs : List Char) : List String :=
  ((cs.splitOnP fun c => !c.isUpper).filter fun w => !w.isEmpty).map String.ofList

/-- The word that a value is written as, if it is a constant. -/
def Value.words (v : Value) : List String :=
  match v with
  | .null | .bool _ => [v.literal]
  | _ => []

/-- The words of a piece that belong to the statement and not to what it speaks of. -/
def Piece.words (r : Reading) : Piece → List String
  | .sql s => wordsOf s.toList
  | .name _ | .raw _ => []
  | .argument a =>
    match r with
    | .prepared => []
    | .inlined => a.value.words
  | .literal v => v.words

/-- The words of a statement, if it can be written. -/
def Update.words (ctx : Context) (u : Update) (r : Reading) : List String :=
  match u.render ctx with
  | .ok s => s.pieces.flatMap (Piece.words r)
  | .error _ => []

theorem wordsOf_eq_nil {cs : List Char} (h : ∀ c ∈ cs, c.isUpper = false) : wordsOf cs = [] := by
  induction cs with
  | nil => rfl
  | cons c cs ih =>
    rw [List.forall_mem_cons] at h
    rw [wordsOf, List.splitOnP_cons_eq_if_modifyHead, h.1]
    exact ih h.2

theorem isUpper_of_isNameChar {c : Char} (h : isNameChar c = true) : c.isUpper = false := by
  refine Bool.eq_false_iff.2 fun hupper => ?_
  obtain ⟨hA, hZ⟩ : 'A'.val ≤ c.val ∧ c.val ≤ 'Z'.val := of_decide_eq_true hupper
  rw [isNameChar, Bool.or_eq_true, Bool.or_eq_true] at h
  rcases h with (h | h) | h
  · have ha : 'a'.val ≤ c.val := of_decide_eq_true (Bool.and_eq_true_iff.1 h).1
    exact absurd (UInt32.le_trans ha hZ) (by decide)
  · have hnine : c.val ≤ '9'.val := of_decide_eq_true (Bool.and_eq_true_iff.1 h).2
    exact absurd (UInt32.le_trans hA hnine) (by decide)
  · rw [eq_of_beq h] at hZ
    exact absurd hZ (by decide)

theorem isUpper_of_isDigit {c : Char} (h : c.isDigit = true) : c.isUpper = false := by
  refine isUpper_of_isNameChar ?_
  rw [isNameChar, h, Bool.or_true, Bool.true_or]

theorem wordsOf_natural (front : String) (h : front.toList.any Char.isUpper = false) (n : Nat) :
    wordsOf (front ++ Decimal.natural n).toList = [] := by
  refine wordsOf_eq_nil fun c hc => ?_
  rw [String.toList_append, List.mem_append, Decimal.natural, String.toList_ofList] at hc
  rcases hc with hc | hc
  · exact Bool.eq_false_iff.2 (List.any_eq_false.1 h c hc)
  · exact isUpper_of_isDigit (Decimal.isDigit_of_mem_digits hc)

theorem mem_keywords_of_mem_words_value (v : Value) : ∀ w ∈ v.words, w ∈ keywords := by
  cases v with
  | null => decide
  | bool b => cases b <;> decide
  | _ => exact nofun

/-- All words that are written are keywords. -/
theorem wording_words (r : Reading) :
    StatementWording fun p => ∀ w ∈ p.words r, w ∈ keywords where
  name _ := nofun
  argument a := by
    cases r with
    | prepared => exact nofun
    | inlined => exact mem_keywords_of_mem_words_value a.value
  raw _ := nofun
  text := by
    show ∀ s ∈ fixedTexts, ∀ w ∈ wordsOf s.toList, w ∈ keywords
    decide +kernel
  literal := mem_keywords_of_mem_words_value
  keyword := by
    show ∀ s ∈ tableTexts, ∀ w ∈ wordsOf s.toList, w ∈ keywords
    decide +kernel
  number n := by
    show ∀ w ∈ wordsOf _, _
    rw [← String.empty_append (s := Decimal.natural n), wordsOf_natural "" (by decide) n]
    exact nofun
  column n := by
    show ∀ w ∈ wordsOf _, _
    rw [wordsOf_natural "c" (by decide) n]
    exact nofun

/-- Statements that have all keywords between them. -/
def wordyExamples : List (Context × Update) :=
  let c : Column := ⟨"t", "c", .integer⟩
  let assigned : List Assignment := [⟨c, .value (.bool false)⟩]
  let other (kind : JoinKind) : JoinPart := ⟨kind, .empty "u", [(c, c)], none⟩
  let filter : Expr := .binary .or
    (.binary .and (.binary .like (.column c) (.column c)) (.not (.isNull false (.column c))))
    (.binary .and (.inList false (.column c) []) (.between false (.column c) (.column c) (.column c)))
  [(.standard, ⟨.table (.empty "t"), assigned, some filter, some 1⟩),
    (.of .sqlserver, ⟨.table (.empty "t"), assigned, none, some 1⟩),
    (.of .h2, ⟨.join (.cross (.ofTable (.empty "t")) (.empty "u")), assigned, none, none⟩),
    (.of .oracle, ⟨.join ⟨.empty "t", JoinKind.all.map other⟩, assigned, none, some 1⟩)]

/-- The words of statements, with or without placeholders, are the keywords. -/
theorem mem_words_iff (w : String) :
    (∃ ctx u r, w ∈ Update.words ctx u r) ↔ w ∈ keywords := by
  constructor
  · rintro ⟨ctx, u, r, hw⟩
    unfold Update.words at hw
    split at hw
    · rename_i s hs
      obtain ⟨-, form, -, rfl⟩ := render_eq_ok hs
      obtain ⟨p, hp, hw⟩ := List.mem_flatMap.1 hw
      exact (wording_words r).planPieces _ p hp w hw
    · cases hw
  · intro hw
    have hall : ∀ w ∈ keywords, ∃ x ∈ wordyExamples, w ∈ x.2.words x.1 .inlined := by
      decide
    obtain ⟨⟨ctx, u⟩, -, h⟩ := hall w hw
    exact ⟨ctx, u, .inlined, h⟩

/-! ### Names that are written bare -/

theorem length_le_doubled (quote : Char) (cs : List Char) :
    cs.length ≤ (Quoted.doubled quote cs).length := by
  induction cs with
  | nil => exact Nat.le_refl 0
  | cons c cs ih =>
    rw [Quoted.doubled]
    split <;> simp only [List.length_cons] <;> omega

theorem identifier_eq_self_iff {d : Dialect} {s : String} :
    d.identifier s = s ↔ isPlainName s = true := by
  rw [Dialect.identifier]
  split
  · rename_i h
    exact iff_of_true rfl h
  · rename_i h
    refine iff_of_false (fun heq => ?_) h
    have hle := length_le_doubled d.quote s.toList
    have hlength : (d.quotedIdentifier s).toList.length = s.toList.length := by rw [heq]
    rw [Dialect.quotedIdentifier, String.toList_ofList, Quoted.enclosed, List.length_cons,
      List.length_append] at hlength
    omega

/-- The keywords that are plain names when they are written in lower case. -/
def bareKeywords : List String :=
  ["between", "cross", "false", "full", "inner", "left", "matched", "merge", "right", "rownum",
    "top", "true"]

theorem lowerWord_of_isPlainName {s : String} (h : isPlainName s = true) : lowerWord s = s := by
  have hlower : ∀ c ∈ s.toList, c.toLower = c := by
    intro c hc
    have hupper := isUpper_of_isNameChar ((isPlainName_chars h).2 c hc)
    exact dif_neg (of_decide_eq_false hupper)
  rw [lowerWord, Text.lower, List.map_congr_left hlower, List.map_id', String.ofList_toList]

theorem mem_bareKeywords_iff {s : String} : s ∈ bareKeywords ↔
    isPlainName s = true ∧ lowerWord s ∈ keywords.map lowerWord := by
  constructor
  · intro hs
    have hall : ∀ w ∈ bareKeywords,
        isPlainName w = true ∧ lowerWord w ∈ keywords.map lowerWord := by
      decide
    exact hall s hs
  · rintro ⟨hplain, hword⟩
    have hall : ∀ w ∈ keywords.map lowerWord, isPlainName w = true → w ∈ bareKeywords := by
      decide
    rw [lowerWord_of_isPlainName hplain] at hword
    exact hall s hword hplain

/-- **Twelve keywords are written bare.** The words of statements are the `keywords`, and each of
them is written somewhere. In every dialect a name that is written bare differs from all of them,
whatever the case of its letters, unless it is one of twelve; the other keywords are quoted. -/
theorem bareKeywords_iff (d : Dialect) (s : String) :
    (∀ w, (∃ ctx u r, w ∈ Update.words ctx u r) ↔ w ∈ keywords) ∧
    ((d.identifier s = s → lowerWord s ∉ keywords.map lowerWord) ↔ s ∉ bareKeywords) := by
  refine ⟨mem_words_iff, ?_⟩
  rw [identifier_eq_self_iff, mem_bareKeywords_iff, not_and]

/-- A table that is called as a keyword stands in a join as the keyword would. -/
theorem left_written_bare :
    (¬ ∀ (d : Dialect) (s : String), d.identifier s = s →
      lowerWord s ∉ keywords.map lowerWord) ∧
    Update.compile (.of .mysql) ⟨.join (.on (.ofTable (.empty "users")) .inner (.empty "left")
        ⟨"users", "id", .integer⟩ ⟨"left", "id", .integer⟩),
      [⟨⟨"users", "name", .varchar⟩, .value (.text "x")⟩], none, none⟩ =
      .ok "UPDATE users INNER JOIN left ON users.id = left.id SET users.name = ?" := by
  refine ⟨fun h => ?_, by decide⟩
  exact h .mysql "left" (by decide) (by decide)

end SqlUpdate
