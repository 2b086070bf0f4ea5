import SqlUpdate.Proofs.Reading.Reader
/-!
# How conditions are put together

* `Stops` — where reading stops.
* `Reads` — tokens that are read as a condition of a given strength, whatever stops the reading.
* `reads_parenthesized`, `reads_not`, `reads_sequel`, ... — one rule for each way of putting
  conditions together.
* `Joins` — tokens that are read as one more member of a chain, or as several more.
-/

namespace SqlUpdate

/-- Whether reading stops in front of the tokens: no operator of the given strength follows. -/
structure Stops (strength : Nat) (ts : List Token) : Prop where
  noPoint : ts.head? ≠ some .point
  weaker : ∀ s us, sequel? ts = some (s, us) → s.strength < strength

theorem Stops.mono {p q : Nat} {ts : List Token} (h : Stops p ts) (hle : p ≤ q) : Stops q ts :=
  ⟨h.noPoint, fun s us hs => Nat.lt_of_lt_of_le (h.weaker s us hs) hle⟩

/-- Nothing binds as `NOT` does behind an operand. -/
theorem Stops.not {ts : List Token} (h : Stops (notStrength + 1) ts) : Stops notStrength ts := by
  refine ⟨h.noPoint, fun s us hs => ?_⟩
  have hlt := h.weaker s us hs
  have hne : s.strength ≠ notStrength := by
    have hfour : 4 ≠ notStrength := by decide
    cases s with
    | operator op => cases op <;> decide
    | isNull negated => exact hfour
    | inList negated => exact hfour
    | between negated => exact hfour
  omega

theorem readSequels_stops {strength : Nat} {ts : List Token} (h : Stops strength ts)
    (fuel : Nat) (c : Condition) : readSequels (fuel + 1) strength c ts = some (c, ts) := by
  rw [readSequels]
  split
  · rfl
  · rename_i s hs
    exact if_pos (h.weaker s.1 s.2 hs)

/-- Tokens that are read as a condition of a given strength: reading goes on behind them as behind
any operand. -/
def Reads (strength : Nat) (ts : List Token) (c : Condition) : Prop :=
  ∀ q ≤ strength, ∀ rest, Stops (strength + 1) rest → ∀ n r, readSequels n q c rest = some r →
    ∀ fuel, n + 3 * ts.length ≤ fuel → readCondition fuel q (ts ++ rest) = some r

section Rules

variable {p : Nat} {ts us : List Token} {c d : Condition}

/-- What is read as a strong condition can be read as a weak one. -/
theorem Reads.weaken {p' : Nat} (h : Reads p ts c) (hle : p' ≤ p) : Reads p' ts c := by
  intro q hq rest hstop
  exact h q (Nat.le_trans hq hle) rest (hstop.mono (Nat.succ_le_succ hle))

/-- A condition that nothing follows is read on its own. -/
theorem Reads.alone (h : Reads p ts c) {rest : List Token} (hstop : Stops p rest) {fuel : Nat}
    (hfuel : 3 * ts.length + 1 ≤ fuel) : readCondition fuel p (ts ++ rest) = some (c, rest) := by
  have hrest := readSequels_stops hstop 0 c
  exact h p (Nat.le_refl p) rest (hstop.mono (Nat.le_succ p)) 1 _ hrest fuel (by omega)

/-- An operand is read as a condition. -/
theorem reads_of_operand (hne : ts ≠ [])
    (h : ∀ q ≤ p, ∀ rest, Stops (p + 1) rest → ∀ fuel, 3 * ts.length ≤ fuel + 1 →
      readOperand fuel q (ts ++ rest) = some (c, rest)) : Reads p ts c := by
  intro q hq rest hstop n r hr fuel hfuel
  have hlen := List.length_pos_iff.2 hne
  obtain ⟨m, rfl⟩ : ∃ m, fuel = m + 1 := ⟨fuel - 1, by omega⟩
  have hoperand := h q hq rest hstop m (by omega)
  have hsequels := readSequels_mono (show n ≤ m by omega) hr
  rw [readCondition, hoperand]
  exact hsequels

/-- A condition between parentheses. -/
theorem reads_parenthesized (h : Reads 1 ts c) (p : Nat) :
    Reads p (.opening :: (ts ++ [.closing])) c := by
  refine reads_of_operand (List.cons_ne_nil _ _) fun q _ rest _ fuel hfuel => ?_
  rw [List.length_cons, List.length_append, List.length_singleton] at hfuel
  obtain ⟨m, rfl⟩ : ∃ m, fuel = m + 1 := ⟨fuel - 1, by omega⟩
  have hclosing : Stops 1 (.closing :: rest) := ⟨nofun, nofun⟩
  have hinner := h.alone hclosing (show 3 * ts.length + 1 ≤ m by omega)
  rw [List.cons_append, List.append_assoc, List.singleton_append, readOperand, hinner]
  rfl

/-- A negation. -/
theorem reads_not (h : Reads notStrength ts c) : Reads notStrength (.notWord :: ts) (.not c) := by
  refine reads_of_operand (List.cons_ne_nil _ _) fun q hq rest hstop fuel hfuel => ?_
  rw [List.length_cons] at hfuel
  obtain ⟨m, rfl⟩ : ∃ m, fuel = m + 1 := ⟨fuel - 1, by omega⟩
  have hinner := h.alone hstop.not (show 3 * ts.length + 1 ≤ m by omega)
  rw [List.cons_append, readOperand, if_pos hq, hinner]
  rfl

/-- Tokens that are found to be a sequel, whatever follows them. -/
def Announces (ks : List Token) (s : Sequel) : Prop :=
  ∀ vs, sequel? (ks ++ vs) = some (s, vs) ∧ (ks ++ vs).head? ≠ some .point

/-- The tokens of a sequel and the tokens behind them are read behind an operand. -/
theorem reads_sequel {s : Sequel} {ks us : List Token} (h : Reads p ts c) (hp : s.strength = p)
    (hks : Announces ks s) (hs : ∀ rest, Stops (p + 1) rest → ∀ fuel, 3 * us.length + 2 ≤ fuel →
      readSequel fuel s c (us ++ rest) = some (d, rest)) : Reads p (ts ++ (ks ++ us)) d := by
  intro q hq rest hstop n r hr fuel hfuel
  have hlen : 1 ≤ ks.length := by
    rcases ks with _ | ⟨k, ks⟩
    · have hnone := (hks []).1
      cases hnone
    · exact Nat.succ_le_succ (Nat.zero_le _)
  rw [List.length_append, List.length_append] at hfuel
  have hfollow : Stops (p + 1) (ks ++ (us ++ rest)) := by
    refine ⟨(hks _).2, fun s' vs hs' => ?_⟩
    rw [(hks _).1] at hs'
    cases hs'
    omega
  have hsequels : readSequels (n + 3 * us.length + 3) q c (ks ++ (us ++ rest)) = some r := by
    rw [readSequels, (hks _).1]
    dsimp only
    rw [if_neg (by omega), hs rest hstop _ (by omega)]
    exact readSequels_mono (by omega) hr
  rw [List.append_assoc, List.append_assoc]
  exact h q hq _ hfollow _ r hsequels fuel (by omega)

/-- An operator of one or two words between two operands. -/
theorem reads_binary {op : BinaryOp} {ks : List Token} (h : Reads op.strength ts c)
    (hks : Announces ks (.operator op)) (hd : Reads (op.strength + 1) us d) :
    Reads op.strength (ts ++ (ks ++ us)) (.apply op c d) := by
  refine reads_sequel h rfl hks fun rest hstop fuel hfuel => ?_
  obtain ⟨m, rfl⟩ : ∃ m, fuel = m + 1 := ⟨fuel - 1, by omega⟩
  have hright := hd.alone hstop (show 3 * us.length + 1 ≤ m by omega)
  rw [readSequel.eq_def]
  dsimp only
  rw [hright]
  rfl

/-- The words behind a value whose absence is tested. -/
def isNullWords (negated : Bool) : List Token :=
  if negated then [.isWord, .notWord, .nullWord] else [.isWord, .nullWord]

theorem reads_isNull (negated : Bool) (h : Reads 4 ts c) :
    Reads 4 (ts ++ isNullWords negated) (.isNull negated c) := by
  have hwords : Announces (isNullWords negated) (.isNull negated) := by
    intro vs
    cases negated <;> exact ⟨rfl, nofun⟩
  rw [← List.append_nil (isNullWords negated)]
  refine reads_sequel h rfl hwords fun rest _ fuel hfuel => ?_
  obtain ⟨m, rfl⟩ : ∃ m, fuel = m + 1 := ⟨fuel - 1, by omega⟩
  rfl

/-- The words in front of the lower bound. -/
def betweenWords (negated : Bool) : List Token :=
  if negated then [.notWord, .betweenWord] else [.betweenWord]

theorem reads_between (negated : Bool) {vs : List Token} {e : Condition} (h : Reads 4 ts c)
    (hlow : Reads 5 us d) (hhigh : Reads 5 vs e) :
    Reads 4 (ts ++ (betweenWords negated ++ (us ++ .op .and :: vs))) (.between negated c d e) := by
  have hwords : Announces (betweenWords negated) (.between negated) := by
    intro ws
    cases negated <;> exact ⟨rfl, nofun⟩
  refine reads_sequel h rfl hwords fun rest hstop fuel hfuel => ?_
  rw [List.length_append, List.length_cons] at hfuel
  obtain ⟨m, rfl⟩ : ∃ m, fuel = m + 1 := ⟨fuel - 1, by omega⟩
  have hand : Stops 5 (.op .and :: (vs ++ rest)) := by
    refine ⟨nofun, fun s ws hs => ?_⟩
    cases hs
    decide
  have hfirst := hlow.alone hand (show 3 * us.length + 1 ≤ m by omega)
  have hsecond := hhigh.alone hstop (show 3 * vs.length + 1 ≤ m by omega)
  rw [List.append_assoc, List.cons_append, readSequel.eq_def]
  dsimp only
  rw [hfirst]
  dsimp only [Option.bind_some]
  rw [show behind (.op .and) (.op .and :: (vs ++ rest)) = some (vs ++ rest) from rfl,
    Option.bind_some, hsecond]
  rfl

/-! ### Lists -/

/-- Tokens that are read as the items of a list, up to its closing parenthesis. -/
def ReadsItems (ts : List Token) (cs : List Condition) : Prop :=
  ∀ rest fuel, 3 * ts.length + 1 ≤ fuel → readItems fuel (ts ++ rest) = some (cs, rest)

/-- The last item of a list. -/
theorem readsItems_singleton (h : Reads 1 ts c) : ReadsItems (ts ++ [.closing]) [c] := by
  intro rest fuel hfuel
  rw [List.length_append, List.length_singleton] at hfuel
  obtain ⟨m, rfl⟩ : ∃ m, fuel = m + 1 := ⟨fuel - 1, by omega⟩
  have hclosing : Stops 1 (.closing :: rest) := ⟨nofun, nofun⟩
  have hitem := h.alone hclosing (show 3 * ts.length + 1 ≤ m by omega)
  rw [List.append_assoc, List.singleton_append, readItems, hitem]
  rfl

/-- An item in front of others. -/
theorem readsItems_cons {cs : List Condition} (h : Reads 1 ts c) (hs : ReadsItems us cs) :
    ReadsItems (ts ++ .comma :: us) (c :: cs) := by
  intro rest fuel hfuel
  rw [List.length_append, List.length_cons] at hfuel
  obtain ⟨m, rfl⟩ : ∃ m, fuel = m + 1 := ⟨fuel - 1, by omega⟩
  have hcomma : Stops 1 (.comma :: (us ++ rest)) := ⟨nofun, nofun⟩
  have hitem := h.alone hcomma (show 3 * ts.length + 1 ≤ m by omega)
  have hitems := hs rest m (by omega)
  rw [List.append_assoc, List.cons_append, readItems, hitem]
  dsimp only [Option.bind_some]
  rw [show behind .comma (.comma :: (us ++ rest)) = some (us ++ rest) from rfl]
  dsimp only
  rw [hitems]
  rfl

/-- No item starts with a closing parenthesis. -/
theorem ReadsItems.behind_closing {cs : List Condition} (h : ReadsItems ts cs)
    (rest : List Token) : behind .closing (ts ++ rest) = none := by
  have hread := h rest _ (Nat.le_refl _)
  cases hts : ts ++ rest with
  | nil => rfl
  | cons t us =>
    rw [hts] at hread
    by_cases ht : t = .closing
    · subst ht
      rw [readItems] at hread
      cases hm : 3 * ts.length with
      | zero => rw [hm] at hread; cases hread
      | succ m =>
        rw [hm, readCondition] at hread
        cases m with
        | zero => cases hread
        | succ m => cases hread
    · exact if_neg ht

/-- The words in front of a list. -/
def inWords (negated : Bool) : List Token :=
  if negated then [.notWord, .inWord, .opening] else [.inWord, .opening]

theorem announces_inWords (negated : Bool) : Announces (inWords negated) (.inList negated) := by
  intro vs
  cases negated <;> exact ⟨rfl, nofun⟩

theorem reads_inList (negated : Bool) {cs : List Condition} (h : Reads 4 ts c)
    (hs : ReadsItems us cs) : Reads 4 (ts ++ (inWords negated ++ us)) (.inList negated c cs) := by
  refine reads_sequel h rfl (announces_inWords negated) fun rest _ fuel hfuel => ?_
  obtain ⟨m, rfl⟩ : ∃ m, fuel = m + 1 := ⟨fuel - 1, by omega⟩
  have hitems := hs rest m (by omega)
  rw [readSequel.eq_def]
  dsimp only
  rw [hs.behind_closing rest]
  dsimp only
  rw [hitems]
  rfl

/-- A list without items. -/
theorem reads_inList_nil (negated : Bool) (h : Reads 4 ts c) :
    Reads 4 (ts ++ (inWords negated ++ [.closing])) (.inList negated c []) := by
  refine reads_sequel h rfl (announces_inWords negated) fun rest _ fuel hfuel => ?_
  obtain ⟨m, rfl⟩ : ∃ m, fuel = m + 1 := ⟨fuel - 1, by omega⟩
  rfl

/-! ### Chains -/

/-- Tokens that are read as further members of a chain. -/
def Joins (op : BinaryOp) (ts : List Token) (c : Condition) : Prop :=
  ∀ q ≤ op.strength, ∀ acc rest, Stops (op.strength + 1) rest →
    ∀ n r, readSequels n q (.apply op acc c) rest = some r →
      ∀ fuel, n + 3 * ts.length + 3 ≤ fuel →
        readSequels fuel q acc (.op op :: (ts ++ rest)) = some r

theorem stops_op (op : BinaryOp) (ts : List Token) : Stops (op.strength + 1) (.op op :: ts) := by
  refine ⟨nofun, fun s us hs => ?_⟩
  cases hs
  exact Nat.lt_succ_self _

/-- A stronger condition is one member. -/
theorem joins_of_reads {op : BinaryOp} (h : Reads (op.strength + 1) ts c) : Joins op ts c := by
  intro q hq acc rest hstop n r hr fuel hfuel
  obtain ⟨m, rfl⟩ : ∃ m, fuel = m + 1 + 1 := ⟨fuel - 2, by omega⟩
  have hmember := h.alone hstop (show 3 * ts.length + 1 ≤ m by omega)
  have hlater := readSequels_mono (show n ≤ m + 1 by omega) hr
  have hsequel : readSequel (m + 1) (.operator op) acc (ts ++ rest)
      = some (.apply op acc c, rest) := by
    rw [readSequel.eq_def]
    dsimp only
    rw [hmember]
    rfl
  rw [readSequels]
  show (if op.strength < q then _ else _) = _
  rw [if_neg (by omega), hsequel]
  exact hlater

/-- Members behind others. -/
theorem joins_chain {op : BinaryOp} (hop : op.isLogical = true) (h : Joins op ts c)
    (hd : Joins op us d) : Joins op (ts ++ .op op :: us) (.apply op c d) := by
  intro q hq acc rest hstop n r hr fuel hfuel
  rw [List.length_append, List.length_cons] at hfuel
  rw [← Condition.apply_assoc hop] at hr
  have hlater := hd q hq _ rest hstop n r hr _ (Nat.le_refl _)
  rw [List.append_assoc, List.cons_append]
  exact h q hq acc _ (stops_op op _) _ r hlater fuel (by omega)

/-- Members behind a first one. -/
theorem reads_chain {op : BinaryOp} (h : Reads op.strength ts c) (hd : Joins op us d) :
    Reads op.strength (ts ++ .op op :: us) (.apply op c d) := by
  intro q hq rest hstop n r hr fuel hfuel
  rw [List.length_append, List.length_cons] at hfuel
  have hlater := hd q hq c rest hstop n r hr _ (Nat.le_refl _)
  rw [List.append_assoc, List.cons_append]
  exact h q hq _ (stops_op op _) _ r hlater fuel (by omega)

end Rules

end SqlUpdate
