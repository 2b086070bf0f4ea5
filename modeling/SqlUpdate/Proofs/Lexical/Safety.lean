import SqlUpdate.Proofs.Binding.Order
import SqlUpdate.Proofs.Lexical.Clauses
import SqlUpdate.Proofs.Lexical.Pieces
/-!
# Names and values cannot change a statement

Whatever a name or a value holds, it stays within its quotes. Outside of them a statement has only
characters of its own, none of which ends a statement or starts a comment, and one placeholder for
every argument.

* `Harmless` — lexemes without the end of a statement or the start of a comment.
* `Sober`, `sober_lexemes` — the lexemes of a piece: at most the first one can be part of a comment.
* `harmless_flatMap` — pieces that are kept apart are harmless together.
* `lexically_safe` — so is every statement without raw fragments.
-/

namespace SqlUpdate

/-! ### Harmless lexemes -/

/-- Lexemes with a number of placeholders, that neither end a statement nor start a comment. -/
structure Harmless (placeholders : Nat) (ls : List Lexeme) : Prop where
  /-- This is the number of placeholders. -/
  placeholders_eq : ls.count (.bare '?') = placeholders
  /-- No statement ends. -/
  noSemicolon : .bare ';' ∉ ls
  /-- No comment starts that ends with its line. -/
  noLineComment : ¬ [.bare '-', .bare '-'] <:+: ls
  /-- No comment starts that has an end of its own. -/
  noBlockComment : ¬ [.bare '/', .bare '*'] <:+: ls

/-- Whether two neighbours start a comment. -/
def OpensComment (l m : Lexeme) : Prop :=
  (l = .bare '-' ∧ m = .bare '-') ∨ (l = .bare '/' ∧ m = .bare '*')

/-- No comment starts where no two neighbours start one. -/
theorem harmless_of_isChain {n : Nat} {ls : List Lexeme} (hn : ls.count (.bare '?') = n)
    (hsemi : .bare ';' ∉ ls) (h : ls.IsChain fun l m => ¬ OpensComment l m) : Harmless n ls := by
  have hno {l m : Lexeme} (hlm : OpensComment l m) : ¬ [l, m] <:+: ls := by
    rintro ⟨before, after, rfl⟩
    rw [List.append_assoc, List.isChain_append] at h
    exact (List.isChain_cons_cons.1 h.2.1).1 hlm
  exact ⟨hn, hsemi, hno (.inl ⟨rfl, rfl⟩), hno (.inr ⟨rfl, rfl⟩)⟩

/-- Whether a lexeme means nothing beside others. -/
def Lexeme.isCalm : Lexeme → Bool
  | .bare c => SqlUpdate.isCalm c
  | .quoted .. => true

namespace OpensComment

theorem left_not_calm {l m : Lexeme} (h : OpensComment l m) : l.isCalm = false := by
  obtain ⟨rfl, -⟩ | ⟨rfl, -⟩ := h <;> decide

theorem right_not_calm {l m : Lexeme} (h : OpensComment l m) : m.isCalm = false := by
  obtain ⟨-, rfl⟩ | ⟨-, rfl⟩ := h <;> decide

end OpensComment

/-- Lexemes of which the first one may be an operator or a sign. All others are calm. -/
inductive Sober : List Lexeme → Prop where
  /-- Calm lexemes behind a first one. -/
  | cons {l : Lexeme} {ls : List Lexeme} :
    (l.isCalm = true ∨ l ∈ [.bare '-', .bare '*', .bare '/']) → (∀ m ∈ ls, m.isCalm = true) →
    Sober (l :: ls)

namespace Sober

theorem of_calm {ls : List Lexeme} (hne : ls ≠ []) (h : ∀ l ∈ ls, l.isCalm = true) : Sober ls := by
  cases ls with
  | nil => exact absurd rfl hne
  | cons l ls =>
    exact .cons (.inl (h l List.mem_cons_self)) fun m hm => h m (List.mem_cons_of_mem _ hm)

theorem ne_nil {ls : List Lexeme} (h : Sober ls) : ls ≠ [] := by
  cases h
  exact List.cons_ne_nil _ _

/-- A character that is neither calm nor an operator does not occur. -/
theorem not_mem {ls : List Lexeme} (h : Sober ls) {l : Lexeme} (hl : l.isCalm = false)
    (hop : l ∉ [.bare '-', .bare '*', .bare '/']) : l ∉ ls := by
  cases h with
  | cons hfirst hrest =>
    intro hmem
    rcases List.mem_cons.1 hmem with rfl | hmem
    · rcases hfirst with hcalm | hfirst
      · rw [hl] at hcalm
        cases hcalm
      · exact hop hfirst
    · rw [hrest l hmem] at hl
      cases hl

end Sober

/-- No comment starts before a calm lexeme. -/
theorem isChain_cons_of_calm (l : Lexeme) {ls : List Lexeme} (h : ∀ m ∈ ls, m.isCalm = true) :
    (l :: ls).IsChain fun l m => ¬ OpensComment l m := by
  induction ls generalizing l with
  | nil => exact .singleton l
  | cons m ls ih =>
    refine .cons_cons (fun hopens => ?_) (ih m fun x hx => h x (List.mem_cons_of_mem _ hx))
    have hm := h m List.mem_cons_self
    rw [hopens.right_not_calm] at hm
    cases hm

theorem Sober.isChain {ls : List Lexeme} (h : Sober ls) :
    ls.IsChain fun l m => ¬ OpensComment l m := by
  cases h with
  | cons _ hrest => exact isChain_cons_of_calm _ hrest

/-! ### The lexemes of pieces -/

/-- The lexemes of a literal. -/
theorem sober_literal (v : Value) : Sober v.lexemes := by
  have hbare (hv : v.isQuoted = false) : Sober (v.literal.toList.map .bare) := by
    obtain ⟨negative, w, htext, hne, hw⟩ := calm_of_bareLiteral (Value.bareLiteral_of_not_quoted hv)
    have hcalm : ∀ l ∈ w.map Lexeme.bare, l.isCalm = true := by
      intro l hl
      obtain ⟨c, hc, rfl⟩ := List.mem_map.1 hl
      exact hw c hc
    rw [htext]
    cases negative with
    | false => exact .of_calm (fun h => hne (List.map_eq_nil_iff.1 h)) hcalm
    | true => exact .cons (.inr (by decide)) hcalm
  cases v with
  | null => exact hbare rfl
  | bool b => exact hbare rfl
  | int i => exact hbare rfl
  | float x => exact hbare rfl
  | text s => exact .cons (.inl rfl) (List.forall_mem_nil _)
  | blob bytes => exact .cons (.inl (by decide)) (by simp [Lexeme.isCalm])

/-- The lexemes of a sound piece with a literal in place of an argument. -/
theorem sober_lexemes (d : Dialect) {p : Piece} (h : p.isSound = true) :
    Sober (p.lexemes d .inlined) := by
  cases p with
  | sql s =>
    rw [Piece.isSound, Bool.and_eq_true, Bool.or_eq_true] at h
    obtain ⟨hne, hcalm | hlone⟩ := h
    · refine .of_calm (fun hnil => ?_) fun l hl => ?_
      · rw [List.map_eq_nil_iff.1 hnil] at hne
        cases hne
      · obtain ⟨c, hc, rfl⟩ := List.mem_map.1 hl
        exact List.all_eq_true.1 hcalm c hc
    · have hops : ∀ t ∈ loneOperators, t.toList.map Lexeme.bare ∈
          [Lexeme.bare '-', .bare '*', .bare '/'].map fun l => [l] := by decide
      obtain ⟨l, hl, hs⟩ := List.mem_map.1 (hops s (List.contains_iff_mem.1 hlone))
      rw [Piece.lexemes, ← hs]
      exact .cons (.inr hl) (List.forall_mem_nil _)
  | name s =>
    rw [Piece.lexemes]
    split
    · rename_i hplain
      obtain ⟨hne, hchars⟩ := isPlainName_chars hplain
      refine .of_calm (fun h => hne (List.map_eq_nil_iff.1 h)) fun l hl => ?_
      obtain ⟨c, hc, rfl⟩ := List.mem_map.1 hl
      exact isCalm_of_isNameChar (hchars c hc)
    · exact .cons (.inl rfl) (List.forall_mem_nil _)
  | raw s => cases h
  | argument a => exact sober_literal a.value
  | literal v => exact sober_literal v

/-- A placeholder is one lexeme, and other pieces have no placeholders. -/
theorem lexemes_cases (d : Dialect) (r : Reading) {p : Piece} (h : p.isSound = true) :
    (r = .prepared ∧ p.argument?.isSome = true ∧ p.lexemes d r = [.bare '?']) ∨
      ((r = .inlined ∨ p.argument? = none) ∧ Sober (p.lexemes d r)) := by
  cases r with
  | inlined => exact .inr ⟨.inl rfl, sober_lexemes d h⟩
  | prepared =>
    cases p with
    | argument a => exact .inl ⟨rfl, rfl, rfl⟩
    | sql s => exact .inr ⟨.inr rfl, sober_lexemes d h⟩
    | name s => exact .inr ⟨.inr rfl, sober_lexemes d h⟩
    | raw s => exact .inr ⟨.inr rfl, sober_lexemes d h⟩
    | literal v => exact .inr ⟨.inr rfl, sober_lexemes d h⟩

/-! ### Statements -/

theorem isCalm_of_isBreak {c : Char} (h : isBreak c = true) : (Lexeme.bare c).isCalm = true := by
  rw [Lexeme.isCalm, isCalm, h, Bool.or_true, Bool.true_or]

/-- No comment starts between two pieces that are kept apart. -/
theorem not_opensComment_of_apart (d : Dialect) (r : Reading) {p q : Piece} (h : p.Apart q) :
    ∀ l ∈ (p.lexemes d r).getLast?, ∀ m ∈ (q.lexemes d r).head?, ¬ OpensComment l m := by
  intro l hl m hm hopens
  rcases h with hend | hstart
  · obtain ⟨c, hc, hlast⟩ := endsWithBreak_lexemes d r hend
    obtain rfl : Lexeme.bare c = l := Option.some.inj (hlast.symm.trans hl)
    have := hopens.left_not_calm
    rw [isCalm_of_isBreak hc] at this
    cases this
  · obtain ⟨c, hc, hhead⟩ := startsWithBreak_lexemes d r hstart
    obtain rfl : Lexeme.bare c = m := Option.some.inj (hhead.symm.trans hm)
    have := hopens.right_not_calm
    rw [isCalm_of_isBreak hc] at this
    cases this

/-- No comment starts in pieces that are kept apart. -/
theorem isChain_flatMap (d : Dialect) (r : Reading) {ps : List Piece} (h : Spaced ps) :
    (ps.flatMap (Piece.lexemes d r)).IsChain fun l m => ¬ OpensComment l m := by
  have hpiece : ∀ p ∈ ps, p.lexemes d r ≠ [] ∧
      (p.lexemes d r).IsChain fun l m => ¬ OpensComment l m := by
    intro p hp
    obtain ⟨-, -, hmark⟩ | ⟨-, hsober⟩ := lexemes_cases d r (h.sound p hp)
    · rw [hmark]
      exact ⟨List.cons_ne_nil _ _, .singleton _⟩
    · exact ⟨hsober.ne_nil, hsober.isChain⟩
  have hnil : [] ∉ ps.map (Piece.lexemes d r) := by
    intro hmem
    obtain ⟨p, hp, hpnil⟩ := List.mem_map.1 hmem
    exact (hpiece p hp).1 hpnil
  rw [List.flatMap_def, List.isChain_flatten hnil, List.isChain_map]
  refine ⟨fun ls hls => ?_, h.apart.imp fun p q hpq => not_opensComment_of_apart d r hpq⟩
  obtain ⟨p, hp, rfl⟩ := List.mem_map.1 hls
  exact (hpiece p hp).2

/-- No statement ends in sound pieces. -/
theorem semicolon_not_mem_flatMap (d : Dialect) (r : Reading) {ps : List Piece}
    (h : ∀ p ∈ ps, p.isSound = true) : .bare ';' ∉ ps.flatMap (Piece.lexemes d r) := by
  intro hmem
  obtain ⟨p, hp, hmem⟩ := List.mem_flatMap.1 hmem
  obtain ⟨-, -, hmark⟩ | ⟨-, hsober⟩ := lexemes_cases d r (h p hp)
  · rw [hmark] at hmem
    exact absurd hmem (by decide)
  · exact hsober.not_mem (by decide) (by decide) hmem

/-- How many placeholders a list of pieces has. -/
def placeholdersOf (r : Reading) (ps : List Piece) : Nat :=
  match r with
  | .prepared => (argumentsOf ps).length
  | .inlined => 0

/-- A sound piece has one placeholder for its argument. -/
theorem count_lexemes (d : Dialect) (r : Reading) {p : Piece} (h : p.isSound = true) :
    (p.lexemes d r).count (.bare '?') = placeholdersOf r [p] := by
  obtain ⟨rfl, harg, hmark⟩ | ⟨hr, hsober⟩ := lexemes_cases d r h
  · obtain ⟨a, ha⟩ := Option.isSome_iff_exists.1 harg
    rw [hmark, placeholdersOf, argumentsOf, List.filterMap_cons, ha]
    rfl
  · rw [List.count_eq_zero.2 (hsober.not_mem (by decide) (by decide))]
    rcases hr with rfl | harg
    · rfl
    · cases r with
      | inlined => rfl
      | prepared => rw [placeholdersOf, argumentsOf, List.filterMap_cons, harg]; rfl

/-- Sound pieces have one placeholder for each of their arguments. -/
theorem count_flatMap_lexemes (d : Dialect) (r : Reading) {ps : List Piece}
    (h : ∀ p ∈ ps, p.isSound = true) :
    (ps.flatMap (Piece.lexemes d r)).count (.bare '?') = placeholdersOf r ps := by
  induction ps with
  | nil => cases r <;> rfl
  | cons p ps ih =>
    rw [List.flatMap_cons, List.count_append, count_lexemes d r (h p List.mem_cons_self),
      ih fun q hq => h q (List.mem_cons_of_mem _ hq)]
    cases r with
    | inlined => rfl
    | prepared =>
      show _ = (argumentsOf ([p] ++ ps)).length
      rw [argumentsOf_append, List.length_append]
      rfl

/-- Pieces that are kept apart are harmless together. -/
theorem harmless_flatMap (d : Dialect) (r : Reading) {ps : List Piece} (h : Spaced ps) :
    Harmless (placeholdersOf r ps) (ps.flatMap (Piece.lexemes d r)) :=
  harmless_of_isChain (count_flatMap_lexemes d r h.sound) (semicolon_not_mem_flatMap d r h.sound)
    (isChain_flatMap d r h)

/-- **Names and values cannot change a statement.** If a statement without raw fragments compiles,
both of its texts close every quoted region and are harmless outside of these regions. With
placeholders there is one for each argument, and with literals there is none. -/
theorem lexically_safe (ctx : Context) (u : Update) {sql : String} (hraw : u.isRawFree = true)
    (h : u.compile ctx = .ok sql) :
    ∃ text, u.inline ctx = .ok text ∧
      ∃ ls ms, scan (ctx.dialectOf u.target).quote sql.toList = some ls ∧
        scan (ctx.dialectOf u.target).quote text.toList = some ms ∧
        Harmless (u.arguments ctx).flatten.length ls ∧ Harmless 0 ms := by
  obtain ⟨s, hs, rfl⟩ := compile_eq_ok h
  have hspaced := spaced_render hs hraw
  have hdialect : s.dialect = ctx.dialectOf u.target := by
    obtain ⟨-, form, -, rfl⟩ := render_eq_ok hs
    rfl
  have hcount : (u.arguments ctx).flatten.length = placeholdersOf .prepared s.pieces := by
    rw [placeholdersOf, argumentsOf_render hs, flatten_arguments]
  rw [hcount, ← hdialect]
  exact ⟨s.text .inlined, inline_of_render hs, _, _, scan_textOf s.dialect .prepared hspaced,
    scan_textOf s.dialect .inlined hspaced, harmless_flatMap s.dialect .prepared hspaced,
    harmless_flatMap s.dialect .inlined hspaced⟩

/-- A statement whose names and values look like other statements. -/
def hostileExample : Update where
  target := .table (.empty "t\"; --?")
  assignments := [⟨⟨"t\"; --?", "/*'a", .varchar⟩, .value (.text "'; -- ?")⟩]
  filter := some (.binary .lt (.binary .sub (.column ⟨"t\"; --?", "b''\"", .integer⟩)
    (.ofValue (.int (-5)))) (.ofValue (.text "*/;?'")))
  limit := none

/-- It is written as one statement with three placeholders. -/
theorem lexically_safe_hostileExample :
    ∃ sql text, hostileExample.compile (.of .generic) = .ok sql ∧
      hostileExample.inline (.of .generic) = .ok text ∧
      ∃ ls ms, scan '"' sql.toList = some ls ∧ scan '"' text.toList = some ms ∧
        Harmless 3 ls ∧ Harmless 0 ms := by
  obtain ⟨text, htext, hsafe⟩ := lexically_safe (.of .generic) hostileExample rfl rfl
  exact ⟨_, text, rfl, htext, hsafe⟩

end SqlUpdate
