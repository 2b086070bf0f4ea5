import SqlUpdate.Proofs.Reading.Grammar
/-!
# How deep tokens stand

Parentheses leave no trace in a condition, but they can be recovered from how many of them enclose
each of the other tokens.

* `Placed` — the other tokens, counted on from a number, have the given depths.
* `Spans` — tokens whose parentheses match, and how many other tokens there are.
* `Condition.size` — how many tokens a condition has without parentheses.
* `Forms` — tokens that stand for a condition, whether or not the grammar agrees.
* `Condition.Guarded`, `Phrase.guarded` — where the grammar forms a condition, every operand of an
  operator binds as strongly as it must, or all of it stands deeper than the operator.
-/

namespace SqlUpdate

/-! ### Depths -/

namespace Token

def isParen : Token → Bool
  | opening | closing => true
  | _ => false

/-- The depth behind a token. -/
def depth (n : Nat) : Token → Nat
  | opening => n + 1
  | closing => n - 1
  | _ => n

end Token

/-- How many tokens are no parentheses. -/
def weight (ts : List Token) : Nat := ts.countP fun t => !t.isParen

/-- The depth behind tokens. -/
def depthBehind (n : Nat) (ts : List Token) : Nat := ts.foldl Token.depth n

/-- The tokens other than parentheses, counted on from a number, have the given depths. -/
def Placed (f : Nat → Nat) : Nat → Nat → List Token → Prop
  | _, _, [] => True
  | i, n, t :: ts => (t.isParen = false → f i = n) ∧ Placed f (i + weight [t]) (t.depth n) ts

theorem weight_append (ts us : List Token) : weight (ts ++ us) = weight ts + weight us :=
  List.countP_append

theorem placed_append {f : Nat → Nat} {i n : Nat} {ts us : List Token} :
    Placed f i n (ts ++ us) ↔
      Placed f i n ts ∧ Placed f (i + weight ts) (depthBehind n ts) us := by
  induction ts generalizing i n with
  | nil => exact ⟨fun h => ⟨trivial, h⟩, fun h => h.2⟩
  | cons t ts ih =>
    have hweight : weight (t :: ts) = weight [t] + weight ts := weight_append [t] ts
    rw [List.cons_append, Placed, Placed, ih, hweight, Nat.add_assoc, and_assoc]
    rfl

/-- Only the depths that are counted matter. -/
theorem Placed.congr {f g : Nat → Nat} {i n : Nat} {ts : List Token} (h : Placed f i n ts)
    (hfg : ∀ k, i ≤ k → g k = f k) : Placed g i n ts := by
  induction ts generalizing i n with
  | nil => trivial
  | cons t ts ih =>
    exact ⟨fun ht => (hfg i (Nat.le_refl i)).trans (h.1 ht),
      ih h.2 fun k hk => hfg k (by omega)⟩

/-- All tokens have depths. -/
theorem exists_placed (i n : Nat) (ts : List Token) : ∃ f, Placed f i n ts := by
  induction ts generalizing i n with
  | nil => exact ⟨fun _ => 0, trivial⟩
  | cons t ts ih =>
    obtain ⟨f, hf⟩ := ih (i + weight [t]) (t.depth n)
    cases ht : t.isParen with
    | true => exact ⟨f, by rw [ht]; exact nofun, hf⟩
    | false =>
      have hone : weight [t] = 1 := by simp [weight, ht]
      refine ⟨Function.update f i n, fun _ => Function.update_self i n f, hf.congr fun k hk => ?_⟩
      exact Function.update_of_ne (show k ≠ i by omega) n f

/-- Tokens without parentheses. -/
def Wordy (ts : List Token) : Prop := ∀ t ∈ ts, t.isParen = false

instance (ts : List Token) : Decidable (Wordy ts) :=
  inferInstanceAs (Decidable (∀ t ∈ ts, t.isParen = false))

theorem Wordy.weight_eq {ts : List Token} (h : Wordy ts) : weight ts = ts.length := by
  rw [weight, List.countP_eq_length]
  intro t ht
  rw [h t ht]
  rfl

theorem Wordy.depthBehind_eq {ts : List Token} (h : Wordy ts) (n : Nat) :
    depthBehind n ts = n := by
  induction ts with
  | nil => rfl
  | cons t ts ih =>
    have ht : t.depth n = n := by
      have hno := h t List.mem_cons_self
      cases t <;> first | rfl | cases hno
    rw [depthBehind, List.foldl_cons, ht]
    exact ih fun u hu => h u (List.mem_cons_of_mem t hu)

/-- They all have the same depth. -/
theorem Wordy.depth_eq {ts : List Token} (h : Wordy ts) {f : Nat → Nat} {i n : Nat}
    (hf : Placed f i n ts) : ∀ j < ts.length, f (i + j) = n := by
  induction ts generalizing i with
  | nil => exact nofun
  | cons t ts ih =>
    have ht := h t List.mem_cons_self
    have hts : Wordy ts := fun u hu => h u (List.mem_cons_of_mem t hu)
    have hone : weight [t] = 1 := by simp [weight, ht]
    have hsingle : Wordy [t] := List.forall_mem_singleton.2 ht
    have hdepth : t.depth n = n := hsingle.depthBehind_eq n
    obtain ⟨hhead, hrest⟩ := hf
    rw [hone, hdepth] at hrest
    rintro (_ | j) hj
    · exact hhead ht
    · rw [Nat.add_comm j 1, ← Nat.add_assoc]
      exact ih hts hrest j (Nat.lt_of_succ_lt_succ hj)

/-! ### Tokens whose parentheses match -/

/-- Tokens whose parentheses match, with a number of tokens other than parentheses. None of these
stands above the first one. -/
structure Spans (ts : List Token) (m : Nat) : Prop where
  weight : weight ts = m
  level : ∀ n, depthBehind n ts = n
  above : ∀ f i n, Placed f i n ts → ∀ j < m, n ≤ f (i + j)

section Spans

variable {ts us : List Token} {m k : Nat} {f : Nat → Nat} {i n : Nat}

theorem Spans.placed_append (h : Spans ts m) :
    Placed f i n (ts ++ us) ↔ Placed f i n ts ∧ Placed f (i + m) n us := by
  rw [SqlUpdate.placed_append, h.weight, h.level]

theorem Wordy.spans (h : Wordy ts) : Spans ts ts.length where
  weight := h.weight_eq
  level := h.depthBehind_eq
  above _ _ _ hf j hj := Nat.le_of_eq (h.depth_eq hf j hj).symm

theorem Spans.append (ht : Spans ts m) (hu : Spans us k) : Spans (ts ++ us) (m + k) where
  weight := by rw [weight_append, ht.weight, hu.weight]
  level n := by
    have hlevel := hu.level n
    rw [← ht.level n] at hlevel
    rw [depthBehind, List.foldl_append]
    exact hlevel.trans (ht.level n)
  above f i n hf j hj := by
    obtain ⟨hts, hus⟩ := ht.placed_append.1 hf
    by_cases hjm : j < m
    · exact ht.above f i n hts j hjm
    · have hlater := hu.above f (i + m) n hus (j - m) (by omega)
      rwa [Nat.add_assoc, Nat.add_sub_cancel' (Nat.not_lt.1 hjm)] at hlater

/-- What stands between parentheses stands one deeper. -/
theorem Spans.placed_parens (h : Spans ts m) :
    Placed f i n (.opening :: (ts ++ [.closing])) ↔ Placed f i (n + 1) ts := by
  show (_ → _) ∧ Placed f i (n + 1) (ts ++ [.closing]) ↔ _
  rw [h.placed_append]
  constructor
  · rintro ⟨-, hts, -⟩
    exact hts
  · intro hts
    exact ⟨nofun, hts, nofun, trivial⟩

theorem Spans.parens (h : Spans ts m) : Spans (.opening :: (ts ++ [.closing])) m where
  weight := by
    show SqlUpdate.weight ([.opening] ++ (ts ++ [.closing])) = m
    rw [weight_append, weight_append, h.weight]
    show 0 + (m + 0) = m
    omega
  level n := by
    show depthBehind (n + 1) (ts ++ [.closing]) = n
    have hlevel := h.level (n + 1)
    rw [depthBehind] at hlevel
    rw [depthBehind, List.foldl_append, hlevel]
    rfl
  above f i n hf j hj := by
    have hle := h.above f i (n + 1) (h.placed_parens.1 hf) j hj
    omega

end Spans

/-! ### The size of a condition -/

/-- The words in front of the parenthesis that opens a list. -/
def listWords (negated : Bool) : List Token := if negated then [.notWord, .inWord] else [.inWord]

theorem inWords_eq (negated : Bool) : inWords negated = listWords negated ++ [.opening] := by
  cases negated <;> rfl

/-- The words of an operator: some tokens without parentheses. -/
structure Words (ts : List Token) : Prop where
  wordy : Wordy ts
  pos : 0 < ts.length

theorem words_operator (op : BinaryOp) : Words op.tokens := by
  cases op <;> exact ⟨by decide, by decide⟩

theorem words_isNull (negated : Bool) : Words (isNullWords negated) := by
  cases negated <;> exact ⟨by decide, by decide⟩

theorem words_list (negated : Bool) : Words (listWords negated) := by
  cases negated <;> exact ⟨by decide, by decide⟩

theorem words_between (negated : Bool) : Words (betweenWords negated) := by
  cases negated <;> exact ⟨by decide, by decide⟩

/-- How many tokens a literal has. -/
def literalSize (cs : List Char) : Nat :=
  ((scan Dialect.generic.quote cs).map fun ls => (tokens ls).length).getD 0

theorem literalSize_literal (v : Value) :
    literalSize v.literal.toList = (tokens v.lexemes).length := by
  have hscan : scan _ (v.literal.toList ++ []) = _ := scan_literal .generic v nofun
  rw [List.append_nil] at hscan
  rw [literalSize, hscan]
  simp

theorem words_lexemes (v : Value) : Words (tokens v.lexemes) := by
  have hliteral := literalTokens_lexemes v
  generalize tokens v.lexemes = ts at hliteral
  generalize v.literal.toList = cs at hliteral
  cases hliteral with
  | null => exact ⟨by decide, by decide⟩
  | word cs => exact ⟨List.forall_mem_singleton.2 rfl, Nat.one_pos⟩
  | positive h => cases h <;> exact ⟨by simp [Wordy, Token.isParen], by simp⟩
  | negative h => cases h <;> exact ⟨by simp [Wordy, Token.isParen], by simp⟩

namespace Condition

mutual
/-- How many tokens a condition has, its parentheses left out. -/
def size : Condition → Nat
  | column _ _ => 3
  | argument _ | rownum => 1
  | literal cs => literalSize cs
  | binary op c d => c.size + (op.tokens.length + d.size)
  | chain _ cs => spanOf cs - 1
  | not c => 1 + c.size
  | isNull negated c => c.size + (isNullWords negated).length
  | inList negated c items => c.size + ((listWords negated).length + (spanOf items - 1))
  | between negated c low high =>
    c.size + ((betweenWords negated).length + (low.size + (1 + high.size)))

/-- How many tokens conditions have with a further one behind each. -/
def spanOf : List Condition → Nat
  | [] => 0
  | c :: cs => c.size + 1 + spanOf cs
end

theorem spanOf_append (cs ds : List Condition) : spanOf (cs ++ ds) = spanOf cs + spanOf ds := by
  induction cs with
  | nil => simp [spanOf]
  | cons c cs ih => simp [spanOf, ih, Nat.add_assoc]

theorem spanOf_pos {cs : List Condition} (h : cs ≠ []) : 0 < spanOf cs := by
  cases cs with
  | nil => exact absurd rfl h
  | cons c cs =>
    rw [spanOf]
    omega

/-- A condition has as many tokens as its members with an operator between them. -/
theorem spanOf_membersOf (op : BinaryOp) {c : Condition} (h : c.membersOf op ≠ []) :
    spanOf (c.membersOf op) = c.size + 1 := by
  cases c with
  | chain op' cs =>
    rw [membersOf] at h ⊢
    split
    · rename_i hop
      rw [if_pos hop] at h
      have hpos := spanOf_pos h
      rw [size]
      omega
    · simp [spanOf]
  | _ => simp [membersOf, spanOf]

theorem size_apply (op : BinaryOp) {c d : Condition} (hc : ∀ op, c.membersOf op ≠ [])
    (hd : ∀ op, d.membersOf op ≠ []) :
    (apply op c d).size = c.size + (op.tokens.length + d.size) := by
  by_cases hop : op.isLogical = true
  · rw [apply_of_logical hop, size, spanOf_append, spanOf_membersOf op (hc op),
      spanOf_membersOf op (hd op), tokens_of_isLogical hop, List.length_singleton]
    omega
  · rw [apply, if_neg hop, size]

theorem membersOf_apply_ne_nil (op op' : BinaryOp) {c : Condition} (hc : ∀ op, c.membersOf op ≠ [])
    (d : Condition) : (apply op c d).membersOf op' ≠ [] := by
  by_cases hop : op.isLogical = true
  · rw [apply_of_logical hop, membersOf]
    split
    · exact List.append_ne_nil_of_left_ne_nil (hc op) _
    · exact List.cons_ne_nil _ _
  · rw [apply, if_neg hop]
    exact List.cons_ne_nil _ _

end Condition

/-! ### Tokens of conditions -/

/-- Tokens that stand for a condition as far as their parentheses and their number go. -/
structure Forms (ts : List Token) (c : Condition) : Prop where
  spans : Spans ts c.size
  members : ∀ op, c.membersOf op ≠ []

section Forms

variable {ts us vs : List Token} {c d e : Condition}

theorem forms_column (table name : List Char) :
    Forms [.name table, .point, .name name] (.column table name) where
  spans := Wordy.spans (by simp [Wordy, Token.isParen])
  members _ := List.cons_ne_nil _ _

theorem forms_argument (a : Argument) : Forms [.argument a] (.argument a) where
  spans := Wordy.spans (by simp [Wordy, Token.isParen])
  members _ := List.cons_ne_nil _ _

theorem forms_literal (v : Value) : Forms (tokens v.lexemes) (.literal v.literal.toList) where
  spans := by
    rw [Condition.size, literalSize_literal]
    exact (words_lexemes v).wordy.spans
  members _ := List.cons_ne_nil _ _

theorem Forms.parens (h : Forms ts c) : Forms (.opening :: (ts ++ [.closing])) c :=
  ⟨h.spans.parens, h.members⟩

theorem Forms.not (h : Forms ts c) : Forms (.notWord :: ts) (.not c) where
  spans := by
    have hword : Wordy [.notWord] := by decide
    exact hword.spans.append h.spans
  members _ := List.cons_ne_nil _ _

theorem Forms.binary (op : BinaryOp) (hc : Forms ts c) (hd : Forms us d) :
    Forms (ts ++ (op.tokens ++ us)) (.apply op c d) where
  spans := by
    rw [Condition.size_apply op hc.members hd.members]
    exact hc.spans.append ((words_operator op).wordy.spans.append hd.spans)
  members op' := Condition.membersOf_apply_ne_nil op op' hc.members d

theorem Forms.isNull (negated : Bool) (h : Forms ts c) :
    Forms (ts ++ isNullWords negated) (.isNull negated c) where
  spans := h.spans.append (words_isNull negated).wordy.spans
  members _ := List.cons_ne_nil _ _

theorem Forms.between (negated : Bool) (hc : Forms ts c) (hd : Forms us d) (he : Forms vs e) :
    Forms (ts ++ (betweenWords negated ++ (us ++ .op .and :: vs))) (.between negated c d e) where
  spans := by
    have hand : Wordy [.op .and] := by decide
    have hbounds := hd.spans.append (hand.spans.append he.spans)
    exact hc.spans.append ((words_between negated).wordy.spans.append hbounds)
  members _ := List.cons_ne_nil _ _

theorem spans_commas {items : List (List Token × Condition)} (h : ∀ x ∈ items, Forms x.1 x.2) :
    Spans (commas (items.map Prod.fst)) (Condition.spanOf (items.map Prod.snd) - 1) := by
  induction items with
  | nil => exact Wordy.spans (by decide)
  | cons x items ih =>
    have hx := (h x List.mem_cons_self).spans
    have hrest := ih fun y hy => h y (List.mem_cons_of_mem x hy)
    cases items with
    | nil => exact hx
    | cons y items =>
      have hcomma : Wordy [.comma] := by decide
      have hboth := hx.append (hcomma.spans.append hrest)
      have hpos := Condition.spanOf_pos (List.cons_ne_nil y.2 (items.map Prod.snd))
      have hsize : x.2.size + ([Token.comma].length
            + (Condition.spanOf ((y :: items).map Prod.snd) - 1))
          = Condition.spanOf ((x :: y :: items).map Prod.snd) - 1 := by
        rw [List.map_cons (l := y :: items), Condition.spanOf, List.map_cons, List.length_singleton]
        omega
      rw [← hsize]
      exact hboth

theorem listTokens_eq (negated : Bool) (us : List Token) :
    inWords negated ++ (us ++ [.closing])
      = listWords negated ++ .opening :: (us ++ [.closing]) := by
  rw [inWords_eq, List.append_assoc]
  rfl

theorem Forms.inList (negated : Bool) {items : List (List Token × Condition)} (hc : Forms ts c)
    (h : ∀ x ∈ items, Forms x.1 x.2) :
    Forms (ts ++ (inWords negated ++ (commas (items.map Prod.fst) ++ [.closing])))
      (.inList negated c (items.map Prod.snd)) where
  spans := by
    rw [listTokens_eq]
    exact hc.spans.append ((words_list negated).wordy.spans.append (spans_commas h).parens)
  members _ := List.cons_ne_nil _ _

theorem Phrase.forms {p : Nat} (h : Phrase p ts c) : Forms ts c := by
  induction h with
  | column table name _ => exact forms_column table name
  | argument a _ => exact forms_argument a
  | literal v _ => exact forms_literal v
  | parens _ _ ih => exact ih.parens
  | not _ _ ih => exact ih.not
  | binary op _ _ _ ihl ihr => exact ihl.binary op ihr
  | isNull negated _ _ ih => exact ih.isNull negated
  | inList negated items _ _ _ ih ihitems => exact ih.inList negated ihitems
  | between negated _ _ _ _ ih ihlow ihhigh => exact ih.between negated ihlow ihhigh

end Forms

/-! ### Operands -/

namespace Condition

/-- How strongly the operators of a condition bind that stand outside of all others. -/
def strength : Condition → Nat
  | binary op _ _ | chain op _ => op.strength
  | not _ => notStrength
  | isNull .. | inList .. | between .. => 4
  | _ => atomStrength

/-- A condition binds with a given strength, or all of it stands deeper than a given depth. -/
def Held (f : Nat → Nat) (i : Nat) (c : Condition) (p n : Nat) : Prop :=
  p ≤ c.strength ∨ ∀ j < c.size, n < f (i + j)

mutual
/-- The operands of every operator bind as strongly as they must, or stand deeper than it does. The
members of chains and what is negated are always written so. -/
def Guarded (f : Nat → Nat) : Condition → Nat → Prop
  | binary op c d, i =>
    let right := i + c.size + op.tokens.length
    c.Held f i op.strength (f (i + c.size)) ∧ d.Held f right (op.strength + 1) (f (i + c.size)) ∧
      c.Guarded f i ∧ d.Guarded f right
  | chain _ cs, i => GuardedMembers f cs i
  | not c, i => c.Guarded f (i + 1)
  | isNull _ c, i => c.Held f i 4 (f (i + c.size)) ∧ c.Guarded f i
  | inList negated c items, i =>
    c.Held f i 4 (f (i + c.size)) ∧ c.Guarded f i ∧
      GuardedMembers f items (i + c.size + (listWords negated).length)
  | between negated c low high, i =>
    let first := i + c.size + (betweenWords negated).length
    let second := first + low.size + 1
    c.Held f i 4 (f (i + c.size)) ∧ low.Held f first 5 (f (i + c.size)) ∧
      high.Held f second 5 (f (i + c.size)) ∧
      c.Guarded f i ∧ low.Guarded f first ∧ high.Guarded f second
  | _, _ => True

/-- The same for several conditions with one token between them. -/
def GuardedMembers (f : Nat → Nat) : List Condition → Nat → Prop
  | [], _ => True
  | c :: cs, i => c.Guarded f i ∧ GuardedMembers f cs (i + c.size + 1)
end

theorem guardedMembers_append (f : Nat → Nat) (cs ds : List Condition) (i : Nat) :
    GuardedMembers f (cs ++ ds) i ↔ GuardedMembers f cs i ∧ GuardedMembers f ds (i + spanOf cs) := by
  induction cs generalizing i with
  | nil => simp [GuardedMembers, spanOf]
  | cons c cs ih =>
    rw [List.cons_append, GuardedMembers, GuardedMembers, ih, spanOf, and_assoc]
    simp only [Nat.add_assoc]

theorem guardedMembers_membersOf (f : Nat → Nat) (op : BinaryOp) (c : Condition) (i : Nat) :
    GuardedMembers f (c.membersOf op) i ↔ c.Guarded f i := by
  cases c with
  | chain op' cs =>
    rw [membersOf]
    split
    · rw [Guarded]
    · simp [GuardedMembers]
  | _ => simp [membersOf, GuardedMembers]

/-- A chain is guarded if both of its parts are. -/
theorem guarded_apply_logical (f : Nat → Nat) {op : BinaryOp} (hop : op.isLogical = true)
    {c : Condition} (hc : c.membersOf op ≠ []) (d : Condition) (i : Nat) :
    (apply op c d).Guarded f i ↔ c.Guarded f i ∧ d.Guarded f (i + c.size + op.tokens.length) := by
  rw [apply_of_logical hop, Guarded, guardedMembers_append, spanOf_membersOf op hc,
    guardedMembers_membersOf, guardedMembers_membersOf, tokens_of_isLogical hop]
  rfl

theorem strength_apply (op : BinaryOp) (c d : Condition) :
    (apply op c d).strength = op.strength := by
  by_cases hop : op.isLogical = true
  · rw [apply_of_logical hop, strength]
  · rw [apply, if_neg hop, strength]

end Condition

section Phrase

variable {f : Nat → Nat} {i n : Nat} {ts us vs : List Token} {c d e : Condition}

/-- Where the words of an operator stand, behind an operand. -/
theorem Forms.placed_words {ws : List Token} (h : Forms ts c) (hws : Words ws) :
    Placed f i n (ts ++ (ws ++ us)) ↔
      Placed f i n ts ∧ f (i + c.size) = n ∧ Placed f (i + c.size) n ws ∧
        Placed f (i + c.size + ws.length) n us := by
  rw [h.spans.placed_append, hws.wordy.spans.placed_append]
  constructor
  · rintro ⟨hts, hwords, hus⟩
    exact ⟨hts, hws.wordy.depth_eq hwords 0 hws.pos, hwords, hus⟩
  · rintro ⟨hts, -, hwords, hus⟩
    exact ⟨hts, hwords, hus⟩

/-- The first of the words of an operator stands as deep as the operand in front of them. -/
theorem Forms.exists_depth {ws : List Token} (h : Forms ts c) (hws : Words ws)
    (hplaced : Placed f i n (ts ++ (ws ++ us))) (k : Nat) :
    ∃ j < c.size + (ws.length + k), f (i + j) = n := by
  have hpos := hws.pos
  exact ⟨c.size, by omega, ((h.placed_words hws).1 hplaced).2.1⟩

/-- Where the bounds of `BETWEEN` stand. -/
theorem Forms.placed_bounds (h : Forms us d) :
    Placed f i n (us ++ .op .and :: vs) ↔
      Placed f i n us ∧ f (i + d.size) = n ∧ Placed f (i + d.size + 1) n vs := by
  rw [h.spans.placed_append]
  show _ ∧ ((_ → _) ∧ _) ↔ _
  simp only [Token.isParen, true_implies]
  rfl

theorem placed_commas {x : List Token × Condition} {items : List (List Token × Condition)}
    (hx : Forms x.1 x.2) : Placed f i n (commas ((x :: items).map Prod.fst)) →
      Placed f i n x.1 ∧ Placed f (i + x.2.size + 1) n (commas (items.map Prod.fst)) := by
  cases items with
  | nil => exact fun h => ⟨h, trivial⟩
  | cons y items =>
    intro h
    obtain ⟨hfirst, -, hrest⟩ := hx.spans.placed_append.1 h
    exact ⟨hfirst, hrest⟩

theorem guarded_items {items : List (List Token × Condition)} (hforms : ∀ x ∈ items, Forms x.1 x.2)
    (h : ∀ x ∈ items, ∀ i, Placed f i n x.1 → x.2.Guarded f i)
    (hplaced : Placed f i n (commas (items.map Prod.fst))) :
    Condition.GuardedMembers f (items.map Prod.snd) i := by
  induction items generalizing i with
  | nil => trivial
  | cons x items ih =>
    obtain ⟨hx, hrest⟩ := placed_commas (hforms x List.mem_cons_self) hplaced
    exact ⟨h x List.mem_cons_self i hx, ih (fun y hy => hforms y (List.mem_cons_of_mem x hy))
      (fun y hy => h y (List.mem_cons_of_mem x hy)) hrest⟩

/-- Where the grammar forms a condition, every operand binds as strongly as its operator asks, or
stands between parentheses of its own. -/
theorem Phrase.guarded {p : Nat} (h : Phrase p ts c) :
    ∀ i n, Placed f i n ts → c.Guarded f i ∧ c.Held f i p n := by
  induction h with
  | column table name hp => exact fun _ _ _ => ⟨trivial, .inl hp⟩
  | argument a hp => exact fun _ _ _ => ⟨trivial, .inl hp⟩
  | literal v hp => exact fun _ _ _ => ⟨trivial, .inl hp⟩
  | @parens p ts c hp hc ih =>
    intro i n hplaced
    -- The condition itself may bind weaker than `p`: it is held by its depth alone.
    have hinner := hc.forms.spans.placed_parens.1 hplaced
    exact ⟨(ih i (n + 1) hinner).1, .inr (hc.forms.spans.above f i (n + 1) hinner)⟩
  | not hp hc ih =>
    rintro i n ⟨-, hplaced⟩
    exact ⟨(ih (i + 1) n hplaced).1, .inl hp⟩
  | @binary p ts us c d op hp hc hd ihl ihr =>
    intro i n hplaced
    obtain ⟨hts, hdepth, -, hus⟩ := (hc.forms.placed_words (words_operator op)).1 hplaced
    obtain ⟨hguardl, hheldl⟩ := ihl i n hts
    obtain ⟨hguardr, hheldr⟩ := ihr _ n hus
    refine ⟨?_, .inl (by rwa [Condition.strength_apply])⟩
    by_cases hop : op.isLogical = true
    · exact (Condition.guarded_apply_logical f hop (hc.forms.members op) d i).2 ⟨hguardl, hguardr⟩
    · rw [Condition.apply, if_neg hop, Condition.Guarded, hdepth]
      exact ⟨hheldl, hheldr, hguardl, hguardr⟩
  | @isNull p ts c negated hp hc ih =>
    intro i n hplaced
    rw [← List.append_nil (isNullWords negated)] at hplaced
    obtain ⟨hts, hdepth, -, -⟩ := (hc.forms.placed_words (words_isNull negated)).1 hplaced
    obtain ⟨hguard, hheld⟩ := ih i n hts
    refine ⟨?_, .inl hp⟩
    rw [Condition.Guarded, hdepth]
    exact ⟨hheld, hguard⟩
  | @inList p ts c negated items hp hc hitems ih ihitems =>
    intro i n hplaced
    have hforms : ∀ x ∈ items, Forms x.1 x.2 := fun x hx => (hitems x hx).forms
    rw [listTokens_eq] at hplaced
    obtain ⟨hts, hdepth, -, hlist⟩ := (hc.forms.placed_words (words_list negated)).1 hplaced
    obtain ⟨hguard, hheld⟩ := ih i n hts
    refine ⟨?_, .inl hp⟩
    rw [Condition.Guarded, hdepth]
    exact ⟨hheld, hguard, guarded_items hforms (fun x hx k hk => (ihitems x hx k (n + 1) hk).1)
      ((spans_commas hforms).placed_parens.1 hlist)⟩
  | @between p ts us vs c low high negated hp hc hlow hhigh ih ihlow ihhigh =>
    intro i n hplaced
    obtain ⟨hts, hdepth, -, hbounds⟩ :=
      (hc.forms.placed_words (words_between negated)).1 hplaced
    obtain ⟨hus, -, hvs⟩ := hlow.forms.placed_bounds.1 hbounds
    obtain ⟨hguard, hheld⟩ := ih i n hts
    obtain ⟨hguardlow, hheldlow⟩ := ihlow _ n hus
    obtain ⟨hguardhigh, hheldhigh⟩ := ihhigh _ n hvs
    refine ⟨?_, .inl hp⟩
    rw [Condition.Guarded, hdepth]
    exact ⟨hheld, hheldlow, hheldhigh, hguard, hguardlow, hguardhigh⟩

end Phrase

end SqlUpdate
