import SqlUpdate.Json.Embedded
/-!
# A text is longer than what it holds

Every character of a string in a document is spelled by at least one character of the text, and
tokens take characters of their own.

* `Token.cost`, `Lexing.weight` — how many characters a token takes at least, and how many the one
  at hand has taken.
* `weight_step?`, `cost_rest?` — one character pays for what a step of the lexer hands out, and a
  text for all its tokens.
* `characters_step?`, `characters_foldlM` — a reader of tokens holds no more than they cost.
* `characters_lt_of_read?` — the strings of a document have fewer characters than its text.
-/

namespace SqlUpdate.Json

/-! ### Tokens -/

/-- How many characters a token takes at least: those that it spells, and one more. -/
def Token.cost : Token → Nat
  | .word value => value.characters + 1
  | .string value => (value.getD "").length + 1
  | _ => 1

/-- How many characters a list of tokens takes at least. -/
def cost : List Token → Nat
  | [] => 0
  | t :: ts => t.cost + cost ts

theorem cost_append (ts us : List Token) : cost (ts ++ us) = cost ts + cost us := by
  induction ts with
  | nil => exact (Nat.zero_add _).symm
  | cons t ts ih => rw [List.cons_append, cost, cost, ih, Nat.add_assoc]

/-- How many characters the token at hand has taken, counted as its cost. -/
def Lexing.weight : Lexing → Nat
  | .between => 0
  | .word _ value => value.characters + 1
  | .number _ => 1
  | .string read | .escape read | .hex read _ _ => read.length + 1

/-- A unit spells at most one character. -/
theorem length_charsOfUnits {us : List StringUnit} {cs : List Char}
    (h : charsOfUnits us = some cs) : cs.length ≤ us.length := by
  fun_induction charsOfUnits us generalizing cs with
  | case1 => cases h; exact Nat.zero_le _
  | case2 c us ih =>
    obtain ⟨ds, hds, rfl⟩ := Option.map_eq_some_iff.1 h
    exact Nat.succ_le_succ (ih hds)
  | case4 n _ _ m us _ ih =>
    obtain ⟨ds, hds, rfl⟩ := Option.map_eq_some_iff.1 h
    exact Nat.succ_le_succ (Nat.le_succ_of_le (ih hds))
  | case7 n us _ _ ih =>
    obtain ⟨ds, hds, rfl⟩ := Option.map_eq_some_iff.1 h
    exact Nat.succ_le_succ (ih hds)
  | case3 | case5 | case6 => cases h

theorem length_textOfUnits (us : List StringUnit) :
    ((textOfUnits us).getD "").length ≤ us.length := by
  rw [textOfUnits]
  cases h : charsOfUnits us with
  | none => exact Nat.zero_le _
  | some cs => exact le_of_eq_of_le String.length_ofList (length_charsOfUnits h)

/-- The first character of a token pays for it as far as it has been read. -/
theorem weight_start? {c : Char} {l : Lexing} {ts : List Token}
    (h : Lexing.start? c = some (l, ts)) : l.weight + cost ts ≤ 1 := by
  rw [Lexing.start?.eq_def] at h
  split at h
  · cases h
    exact Nat.zero_le 1
  · split at h <;> try (cases h; decide)
    obtain ⟨s, -, heq⟩ := Option.map_eq_some_iff.1 h
    cases heq
    exact Nat.le_refl 1

/-- One more character pays for what it adds to the token at hand and for the tokens that it
completes. -/
theorem weight_step? {l l' : Lexing} {c : Char} {ts : List Token}
    (h : l.step? c = some (l', ts)) : l'.weight + cost ts ≤ l.weight + 1 := by
  cases l with
  | between => exact weight_start? h
  | word missing value =>
    rw [Lexing.step?.eq_def] at h
    simp only at h
    split at h
    · split at h <;> cases h
      simp [Lexing.weight, cost, Token.cost]
    · split at h <;> cases h
      simp [Lexing.weight, cost]
    · cases h
  | number s =>
    simp only [Lexing.step?] at h
    split at h
    · cases h
      exact Nat.le_succ 1
    · obtain ⟨n, -, h⟩ := Option.bind_eq_some_iff.1 h
      obtain ⟨⟨l', rest⟩, hstart, h⟩ := Option.bind_eq_some_iff.1 h
      cases h
      have := weight_start? hstart
      simp only [cost, Token.cost, Lexing.weight] at this ⊢
      omega
  | string read =>
    simp only [Lexing.step?] at h
    split at h
    · cases h
      have := length_textOfUnits read.reverse
      rw [List.length_reverse] at this
      simp only [Lexing.weight, cost, Token.cost]
      omega
    · split at h
      · cases h
        exact Nat.le_succ _
      · split at h <;> cases h
        exact Nat.le_refl _
  | escape read =>
    simp only [Lexing.step?] at h
    split at h
    · cases h
      exact Nat.le_succ _
    · obtain ⟨d, -, heq⟩ := Option.map_eq_some_iff.1 h
      cases heq
      exact Nat.le_refl _
  | hex read missing value =>
    obtain ⟨d, -, h⟩ := Option.bind_eq_some_iff.1 h
    simp only at h
    split at h
    · cases h
      exact Nat.le_refl _
    · cases h
      exact Nat.le_succ _

/-- A text pays for all its tokens. -/
theorem cost_rest? {l : Lexing} {cs : List Char} {ts : List Token} (h : l.rest? cs = some ts) :
    cost ts ≤ l.weight + cs.length := by
  induction cs generalizing l ts with
  | nil =>
    cases l with
    | between => cases h; exact Nat.zero_le _
    | number s =>
      obtain ⟨n, -, rfl⟩ := Option.map_eq_some_iff.1 h
      exact Nat.le_refl 1
    | word | string | escape | hex => cases h
  | cons c cs ih =>
    obtain ⟨⟨l', done⟩, hstep, h⟩ := Option.bind_eq_some_iff.1 h
    obtain ⟨rest, hrest, h⟩ := Option.bind_eq_some_iff.1 h
    obtain rfl := Option.some.inj h
    have hnow := weight_step? hstep
    have hlater := ih hrest
    rw [cost_append, List.length_cons]
    omega

/-! ### Documents -/

/-- How many characters the strings of something that is still open have. -/
def Open.characters : Open → Nat
  | .array items => charactersOfItems items
  | .object members _ => charactersOfMembers members

/-- How many characters the strings have that what may come next already holds. -/
def Next.characters : Next → Nat
  | .name members | .colon members _ => charactersOfMembers members
  | .after j => j.characters
  | _ => 0

/-- How many characters the strings have in everything that is still open. -/
def charactersOfStack : List Open → Nat
  | [] => 0
  | o :: stack => o.characters + charactersOfStack stack

/-- How many characters the strings have that a reader of tokens holds. -/
def Reading.characters (r : Reading) : Nat := charactersOfStack r.stack + r.next.characters

theorem charactersOfItems_append (items more : List Json) :
    charactersOfItems (items ++ more) = charactersOfItems items + charactersOfItems more := by
  induction items with
  | nil => exact (Nat.zero_add _).symm
  | cons j js ih => rw [List.cons_append, charactersOfItems, charactersOfItems, ih, Nat.add_assoc]

theorem charactersOfItems_reverse (items : List Json) :
    charactersOfItems items.reverse = charactersOfItems items := by
  induction items with
  | nil => rfl
  | cons j js ih =>
    rw [List.reverse_cons, charactersOfItems_append, ih, Nat.add_comm]
    rfl

/-- Only the values of members count. -/
theorem charactersOfMembers_eq (members : List (Text × Json)) :
    charactersOfMembers members = charactersOfItems (members.map Prod.snd) := by
  induction members with
  | nil => rfl
  | cons m ms ih => rw [charactersOfMembers, ih, List.map_cons, charactersOfItems]

theorem charactersOfMembers_reverse (members : List (Text × Json)) :
    charactersOfMembers members.reverse = charactersOfMembers members := by
  rw [charactersOfMembers_eq, List.map_reverse, charactersOfItems_reverse, charactersOfMembers_eq]

theorem characters_le_of_mem {j : Json} {items : List Json} (h : j ∈ items) :
    j.characters ≤ charactersOfItems items := by
  obtain ⟨before, after, rfl⟩ := List.append_of_mem h
  rw [charactersOfItems_append, charactersOfItems]
  omega

/-- An item has no more characters than its array. -/
theorem characters_le_of_mem_items {j : Json} {items : List Json} (h : j ∈ items) :
    j.characters ≤ (Json.array items).characters := by
  rw [characters]
  exact characters_le_of_mem h

/-- A value has no more characters than its object. -/
theorem characters_le_of_mem_members {m : Text × Json} {members : List (Text × Json)}
    (h : m ∈ members) : m.2.characters ≤ (Json.object members).characters := by
  rw [characters, charactersOfMembers_eq]
  exact characters_le_of_mem (List.mem_map_of_mem h)

/-- The start of a value is paid for by its token. -/
theorem characters_startValue {stack : List Open} {t : Token} {r : Reading}
    (h : Reading.startValue stack t = some r) :
    r.characters + 1 ≤ charactersOfStack stack + t.cost := by
  cases t <;> cases h <;>
    simp [Reading.characters, Next.characters, Token.cost, Json.characters, Nat.add_assoc]

/-- What a reader holds grows by less than a token costs. -/
theorem characters_step? {r r' : Reading} {t : Token} (h : r.step? t = some r') :
    r'.characters + 1 ≤ r.characters + t.cost := by
  obtain ⟨stack, next⟩ := r
  cases next with
  | value => exact characters_startValue h
  | itemOrEnd =>
    simp only [Reading.step?] at h
    split at h
    · cases h
      simp [Reading.characters, Next.characters, Token.cost, Json.characters, charactersOfItems]
    · have := characters_startValue h
      simpa [Reading.characters, Next.characters, Open.characters, charactersOfStack,
        charactersOfItems] using this
  | nameOrEnd =>
    cases t <;> cases h <;>
      simp [Reading.characters, Next.characters, Token.cost, Json.characters, charactersOfMembers]
  | name members =>
    cases t <;> cases h
    simp [Reading.characters, Next.characters, Token.cost]
  | colon members name =>
    cases t <;> cases h
    simp [Reading.characters, Next.characters, Open.characters, charactersOfStack, Token.cost]
    omega
  | after value =>
    cases stack with
    | nil => cases t <;> cases h
    | cons o stack =>
      cases o <;> cases t <;> cases h <;>
        simp only [Reading.characters, Next.characters, Open.characters, Token.cost,
          Json.characters, charactersOfStack, charactersOfItems_reverse,
          charactersOfMembers_reverse, charactersOfItems, charactersOfMembers] <;>
        omega

/-- What a reader holds after some tokens grows by less than they cost. -/
theorem characters_foldlM {r r' : Reading} {ts : List Token}
    (h : ts.foldlM Reading.step? r = some r') :
    r'.characters + ts.length ≤ r.characters + cost ts := by
  induction ts generalizing r with
  | nil => cases h; exact Nat.le_refl _
  | cons t ts ih =>
    rw [List.foldlM_cons] at h
    obtain ⟨next, hstep, h⟩ := Option.bind_eq_some_iff.1 h
    have hnow := characters_step? hstep
    have hlater := ih h
    rw [cost, List.length_cons]
    omega

theorem characters_of_done? {r : Reading} {j : Json} (h : r.done? = some j) :
    j.characters = r.characters := by
  obtain ⟨_ | ⟨o, stack⟩, next⟩ := r
  · cases next <;> cases h
    exact (Nat.zero_add _).symm
  · cases h

/-- **A text is longer than what it holds.** The strings of a document that is read have fewer
characters than its text, the names of members left out. -/
theorem characters_lt_of_read? {s : String} {j : Json} (h : read? s = some j) :
    j.characters < s.length := by
  obtain ⟨ts, hts, h⟩ := Option.bind_eq_some_iff.1 h
  obtain ⟨r, hr, hdone⟩ := Option.bind_eq_some_iff.1 h
  have htokens : 0 < ts.length := by
    -- No token at all leaves the reader waiting for a value.
    cases ts with
    | nil => cases hr; cases hdone
    | cons t ts => exact Nat.succ_pos _
  have hcost := cost_rest? hts
  have hread := characters_foldlM hr
  rw [String.length_toList] at hcost
  rw [characters_of_done? hdone]
  simp only [Reading.characters, charactersOfStack, Next.characters, Lexing.weight]
    at hcost hread ⊢
  omega

end SqlUpdate.Json
