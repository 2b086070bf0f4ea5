import SqlUpdate.Proofs.Lexical.Literal
import SqlUpdate.Proofs.Lexical.Scan
import SqlUpdate.Proofs.Lexical.Spacing
/-!
# Pieces that are kept apart are scanned one by one

* `opensRegion_of_isCalm` — the characters of the statement itself open no region.
* `scan_piece` — a piece is scanned as its lexemes, whatever follows it at a distance.
* `StartsWithBreak`, `EndsWithBreak` — what keeps pieces apart is seen in their lexemes.
* `scan_textOf` — the lexemes of a text are those of its pieces.
-/

namespace SqlUpdate

/-! ### Characters that open no region -/

theorem opensRegion_of_isCalm (d : Dialect) {c : Char} (h : isCalm c = true) :
    opensRegion d.quote c = false := by
  have hne {x : Char} (hx : isCalm x = false) : (c == x) = false := by
    rw [beq_eq_false_iff_ne]
    rintro rfl
    rw [hx] at h
    cases h
  have hquote : isCalm d.quote = false := by cases d <;> decide
  rw [opensRegion, hne hquote, hne (show isCalm Value.singleQuote = false by decide)]
  rfl

theorem opensRegion_singleQuote (q : Char) : opensRegion q Value.singleQuote = true := by
  rw [opensRegion, beq_self_eq_true, Bool.true_or]

theorem opensRegion_quote (q : Char) : opensRegion q q = true := by
  rw [opensRegion, beq_self_eq_true, Bool.or_true]

/-- The characters of a sound text open no region. -/
theorem opensRegion_of_isSound (d : Dialect) {s : String} (h : (Piece.sql s).isSound = true) :
    ∀ c ∈ s.toList, opensRegion d.quote c = false := by
  intro c hc
  rw [Piece.isSound, Bool.and_eq_true, Bool.or_eq_true] at h
  rcases h.2 with hcalm | hlone
  · exact opensRegion_of_isCalm d (List.all_eq_true.1 hcalm c hc)
  · have hops : loneOperators.all
        (fun t => t.toList.all fun x => !opensRegion d.quote x) = true := by cases d <;> decide
    have hs := List.all_eq_true.1 hops s (List.contains_iff_mem.1 hlone)
    exact Bool.not_eq_true' _ ▸ List.all_eq_true.1 hs c hc

/-- A plain name has characters of names only, and one at least. -/
theorem isPlainName_chars {s : String} (h : isPlainName s = true) :
    s.toList ≠ [] ∧ ∀ c ∈ s.toList, isNameChar c = true := by
  rw [isPlainName, Bool.and_eq_true] at h
  have hshape := h.1
  cases hs : s.toList with
  | nil => rw [hs] at hshape; cases hshape
  | cons c cs =>
    rw [hs, hasNameShape, Bool.and_eq_true, isNameStart] at hshape
    refine ⟨List.cons_ne_nil c cs, fun x hx => ?_⟩
    rcases List.mem_cons.1 hx with rfl | hx
    · rw [isNameChar]
      rcases Bool.or_eq_true _ _ ▸ hshape.1 with hl | hl <;> simp [hl]
    · exact List.all_eq_true.1 hshape.2 x hx

/-- A plain name starts as a bare identifier does. -/
theorem isPlainName_head {s : String} (h : isPlainName s = true) :
    s.toList.head?.any isNameStart = true := by
  rw [isPlainName, Bool.and_eq_true] at h
  have hshape := h.1
  cases hs : s.toList with
  | nil => rw [hs] at hshape; cases hshape
  | cons c cs =>
    rw [hs, hasNameShape, Bool.and_eq_true] at hshape
    exact hshape.1

/-- No bare identifier starts with a digit. -/
theorem isNameStart_of_isDigit {c : Char} (h : c.isDigit = true) : isNameStart c = false := by
  have hle : c.val ≤ 57 := by
    have hrange : (decide (48 ≤ c.val) && decide (c.val ≤ 57)) = true := h
    rw [Bool.and_eq_true] at hrange
    exact of_decide_eq_true hrange.2
  show ((decide (97 ≤ c.val) && decide (c.val ≤ 122)) || c == '_') = false
  rw [Bool.or_eq_false_iff]
  refine ⟨?_, ?_⟩
  · have hlt : ¬ 97 ≤ c.val := fun hge => absurd (UInt32.le_trans hge hle) (by decide)
    rw [decide_eq_false hlt, Bool.false_and]
  · rw [beq_eq_false_iff_ne]
    rintro rfl
    exact absurd hle (by decide)

theorem isAlphanum_of_isLower {c : Char} (h : c.isLower = true) : c.isAlphanum = true := by
  show ((c.isUpper || c.isLower) || c.isDigit) = true
  rw [h, Bool.or_true, Bool.true_or]

theorem isCalm_of_isNameChar {c : Char} (h : isNameChar c = true) : isCalm c = true := by
  rw [isNameChar, Bool.or_eq_true, Bool.or_eq_true] at h
  rcases h with (h | h) | h
  · rw [isCalm, isAlphanum_of_isLower h, Bool.true_or, Bool.true_or]
  · simp [isCalm, Char.isAlphanum, h]
  · rw [eq_of_beq h]
    decide

/-- A literal without quotes is a calm text behind an optional sign. -/
theorem calm_of_bareLiteral {cs : List Char} (h : Value.BareLiteral cs) :
    ∃ negative w, cs = signed negative w ∧ w ≠ [] ∧ ∀ c ∈ w, isCalm c = true := by
  have hword {w : List Char} (hne : w ≠ []) (hw : w.all isCalm = true) :
      ∃ negative w', w = signed negative w' ∧ w' ≠ [] ∧ ∀ c ∈ w', isCalm c = true :=
    ⟨false, w, rfl, hne, List.all_eq_true.1 hw⟩
  have hdigits {ds : List Char} (hds : IsDigits ds) : ∀ c ∈ ds, isCalm c = true := by
    intro c hc
    simp [isCalm, Char.isAlphanum, hds.isDigit c hc]
  cases h with
  | null => exact hword (List.cons_ne_nil _ _) (by decide)
  | true => exact hword (List.cons_ne_nil _ _) (by decide)
  | false => exact hword (List.cons_ne_nil _ _) (by decide)
  | nan => exact hword (List.cons_ne_nil _ _) (by decide)
  | number negative hu =>
    refine ⟨negative, _, rfl, ?_⟩
    cases hu with
    | whole hds => exact ⟨hds.ne_nil, hdigits hds⟩
    | decimal hds hes =>
      refine ⟨fun h => hds.ne_nil (List.append_eq_nil_iff.1 h).1, fun c hc => ?_⟩
      rcases List.mem_append.1 hc with hc | hc
      · exact hdigits hds c hc
      · rcases List.mem_cons.1 hc with rfl | hc
        · decide
        · exact hdigits hes c hc
    | infinity => exact ⟨List.cons_ne_nil _ _, List.all_eq_true.1 (by decide)⟩

/-! ### Scanning a piece -/

/-- Whether no quote follows. -/
def QuoteFree (d : Dialect) (rest : List Char) : Prop :=
  ∀ c ∈ rest.head?, opensRegion d.quote c = false

theorem QuoteFree.head_ne {d : Dialect} {rest : List Char} (h : QuoteFree d rest) {c : Char}
    (hc : opensRegion d.quote c = true) : rest.head? ≠ some c := by
  intro hrest
  have := h c hrest
  rw [hc] at this
  cases this

/-- A name is scanned as a plain name or as one region. -/
theorem scan_name (d : Dialect) (r : Reading) (s : String) {rest : List Char}
    (h : QuoteFree d rest) :
    scan d.quote ((d.identifier s).toList ++ rest)
      = (scan d.quote rest).map ((Piece.name s).lexemes d r ++ ·) := by
  rw [Dialect.identifier, Piece.lexemes]
  split
  · rename_i hplain
    exact scan_append (fun c hc => opensRegion_of_isCalm d
      (isCalm_of_isNameChar ((isPlainName_chars hplain).2 c hc))) rest
  · rw [Dialect.quotedIdentifier, String.toList_ofList]
    exact scan_enclosed (opensRegion_quote _) (h.head_ne (opensRegion_quote _)) s.toList

/-- A literal is scanned as a plain word or number or as one region. -/
theorem scan_literal (d : Dialect) (v : Value) {rest : List Char} (h : QuoteFree d rest) :
    scan d.quote (v.literal.toList ++ rest) = (scan d.quote rest).map (v.lexemes ++ ·) := by
  have hsingle := opensRegion_singleQuote d.quote
  have hbare (hv : v.isQuoted = false) (hl : v.lexemes = v.literal.toList.map .bare) :
      scan d.quote (v.literal.toList ++ rest) = (scan d.quote rest).map (v.lexemes ++ ·) := by
    rw [hl]
    refine scan_append (fun c hc => ?_) rest
    obtain ⟨negative, w, htext, -, hw⟩ := calm_of_bareLiteral (Value.bareLiteral_of_not_quoted hv)
    rw [htext] at hc
    cases negative with
    | false => exact opensRegion_of_isCalm d (hw c hc)
    | true =>
      rcases List.mem_cons.1 hc with rfl | hc
      · cases d <;> decide
      · exact opensRegion_of_isCalm d (hw c hc)
  cases v with
  | null => exact hbare rfl rfl
  | bool b => exact hbare rfl rfl
  | int i => exact hbare rfl rfl
  | float x => exact hbare rfl rfl
  | text s =>
    rw [Value.literal, String.toList_ofList]
    exact scan_enclosed hsingle (h.head_ne hsingle) s.toList
  | blob bytes =>
    rw [Value.literal, String.toList_ofList, Value.blobLiteral, List.cons_append,
      scan_cons (by cases d <;> decide), scan_enclosed hsingle (h.head_ne hsingle),
      Option.map_map]
    rfl

/-- A sound piece is scanned as its lexemes. Behind a fixed text anything may follow, and behind any
other piece anything but a quote. -/
theorem scan_piece (d : Dialect) (r : Reading) {p : Piece} (hp : p.isSound = true)
    {rest : List Char} (h : (∃ s, p = .sql s) ∨ QuoteFree d rest) :
    scan d.quote ((p.text d r).toList ++ rest)
      = (scan d.quote rest).map (p.lexemes d r ++ ·) := by
  have free (hp : ∀ s, p ≠ .sql s) : QuoteFree d rest :=
    h.resolve_left fun ⟨s, hs⟩ => hp s hs
  cases p with
  | sql s => exact scan_append (opensRegion_of_isSound d hp) rest
  | name s => exact scan_name d r s (free nofun)
  | raw s => cases hp
  | argument a =>
    cases r with
    | prepared =>
      have hmark : ((Piece.argument a).text d .prepared).toList = ['?'] := by
        show "?".toList = ['?']
        decide
      rw [hmark]
      exact scan_cons (by cases d <;> decide) rest
    | inlined => exact scan_literal d a.value (free nofun)
  | literal v => exact scan_literal d v (free nofun)

/-- What starts apart starts with no quote. -/
theorem quoteFree_of_startsApart (d : Dialect) (r : Reading) {ps : List Piece}
    (h : StartsApart ps) : QuoteFree d (textOf d r ps).toList := by
  cases ps with
  | nil => exact nofun
  | cons p ps =>
    have hp : p.startsApart = true := h p rfl
    cases p with
    | sql s =>
      intro c hc
      rw [textOf_cons, String.toList_append] at hc
      cases hs : s.toList with
      | nil => rw [Piece.startsApart, hs] at hp; cases hp
      | cons x xs =>
        rw [Piece.startsApart, hs] at hp
        have hx : isCalm x = true := by
          have hbreak : isBreak x = true := hp
          rw [isCalm, hbreak, Bool.or_true, Bool.true_or]
        have : c = x := by
          have hhead : (s.toList ++ (textOf d r ps).toList).head? = some c := hc
          rw [hs] at hhead
          exact (Option.some.inj hhead).symm
        exact this ▸ opensRegion_of_isCalm d hx
    | name s => cases hp
    | raw s => cases hp
    | argument a => cases hp
    | literal v => cases hp

/-- Whether lexemes start with a character that keeps them apart from what stands before. -/
def StartsWithBreak (ls : List Lexeme) : Prop := ∃ c, isBreak c = true ∧ ls.head? = some (.bare c)

/-- Whether lexemes end with a character that keeps them apart from what follows. -/
def EndsWithBreak (ls : List Lexeme) : Prop := ∃ c, isBreak c = true ∧ ls.getLast? = some (.bare c)

theorem startsWithBreak_lexemes (d : Dialect) (r : Reading) {p : Piece}
    (h : p.startsApart = true) : StartsWithBreak (p.lexemes d r) := by
  cases p with
  | sql s =>
    obtain ⟨c, hc, hbreak⟩ := (Option.any_eq_true _ _).1 h
    exact ⟨c, hbreak, by rw [Piece.lexemes, List.head?_map, hc]; rfl⟩
  | name s => cases h
  | raw s => cases h
  | argument a => cases h
  | literal v => cases h

theorem endsWithBreak_lexemes (d : Dialect) (r : Reading) {p : Piece}
    (h : p.endsApart = true) : EndsWithBreak (p.lexemes d r) := by
  cases p with
  | sql s =>
    obtain ⟨c, hc, hbreak⟩ := (Option.any_eq_true _ _).1 h
    exact ⟨c, hbreak, by rw [Piece.lexemes, List.getLast?_map, hc]; rfl⟩
  | name s => cases h
  | raw s => cases h
  | argument a => cases h
  | literal v => cases h

/-- The lexemes of a text are those of its pieces, if they are kept apart. -/
theorem scan_textOf (d : Dialect) (r : Reading) {ps : List Piece} (h : Spaced ps) :
    scan d.quote (textOf d r ps).toList = some (ps.flatMap (Piece.lexemes d r)) := by
  induction ps with
  | nil => rfl
  | cons p ps ih =>
    have hfollow : (∃ s, p = .sql s) ∨ QuoteFree d (textOf d r ps).toList := by
      by_cases hsql : ∃ s, p = .sql s
      · exact .inl hsql
      · refine .inr (quoteFree_of_startsApart d r fun q hq => ?_)
        have hpq : p.Apart q := (List.isChain_cons.1 h.apart).1 q hq
        refine hpq.resolve_left fun hend => ?_
        cases p with
        | sql s => exact hsql ⟨s, rfl⟩
        | name s => cases hend
        | raw s => cases hend
        | argument a => cases hend
        | literal v => cases hend
    rw [textOf_cons, String.toList_append, scan_piece d r (h.sound p List.mem_cons_self) hfollow,
      ih h.tail, List.flatMap_cons]
    rfl

end SqlUpdate
