import SqlUpdate.Json.Printer
import SqlUpdate.Proofs.Json.Numerals
/-!
# Written documents are read back

A document is read from its compact text in every enclosing text: the reader goes on behind it as
if it had been handed the document. A number ends only where something follows that does not
continue it, so what follows is a comma, a closing bracket or brace, or nothing.

* `readOn?` — what a reader makes of the rest of a text.
* `readOn?_string`, `readOn?_number` — strings and numbers are read as one token each.
* `IsPrintable` — the documents whose texts say all of them.
* `read?_compact`, `readShallow?_compact` — these are read back.
-/

namespace SqlUpdate.Json

/-! ### Reading on -/

/-- What a reader makes of the rest of a text, in the middle of a token or between two. -/
def readOn? (l : Lexing) (r : Reading) (cs : List Char) : Option Reading :=
  (l.rest? cs).bind fun ts => ts.foldlM Reading.step? r

theorem read?_eq (s : String) :
    read? s = (readOn? .between ⟨[], .value⟩ s.toList).bind Reading.done? := by
  rw [read?, readOn?, Option.bind_assoc]
  rfl

section Steps

variable {l l' : Lexing} {c : Char}

/-- One character, and the tokens that it completes. -/
theorem readOn?_cons {ts : List Token} (h : l.step? c = some (l', ts)) (r : Reading)
    (cs : List Char) :
    readOn? l r (c :: cs) = (ts.foldlM Reading.step? r).bind fun r => readOn? l' r cs := by
  have hrest : l.rest? (c :: cs) = (l'.rest? cs).bind fun rest => some (ts ++ rest) := by
    rw [Lexing.rest?, h]
    rfl
  simp only [readOn?, hrest, Option.bind_assoc, Option.bind_some]
  rw [Option.bind_comm]
  exact Option.bind_congr fun rest _ => List.foldlM_append

theorem readOn?_silent (h : l.step? c = some (l', [])) (r : Reading) (cs : List Char) :
    readOn? l r (c :: cs) = readOn? l' r cs := readOn?_cons h r cs

theorem readOn?_token {t : Token} (h : l.step? c = some (l', [t])) (r : Reading) (cs : List Char) :
    readOn? l r (c :: cs) = (r.step? t).bind fun r => readOn? l' r cs := by
  rw [readOn?_cons h]
  cases hstep : r.step? t <;> simp [hstep]

end Steps

/-! ### Strings -/

/-- Whether a character is written as an escape of four hexadecimal digits. -/
def IsCoded (c : Char) : Prop :=
  c.toNat < 0x20 ∧ c ∉ ['\x08', '\x0c', '\n', '\r', '\t']

instance (c : Char) : Decidable (IsCoded c) := inferInstanceAs (Decidable (_ ∧ _))

/-- The unit that a character of a string is read as. -/
def unitOf (c : Char) : StringUnit := if IsCoded c then .code c.toNat else .char c

theorem charsOfUnits_map_unitOf (cs : List Char) : charsOfUnits (cs.map unitOf) = some cs := by
  induction cs with
  | nil => rfl
  | cons c cs ih =>
    rw [List.map_cons, unitOf]
    split
    · rename_i hc
      -- What is written as a code is a control character, and no half of a surrogate pair.
      have hcontrol := hc.1
      have hlow : isLowSurrogate c.toNat = false := by
        simp [isLowSurrogate]
        omega
      have hhigh : isHighSurrogate c.toNat = false := by
        simp [isHighSurrogate]
        omega
      rw [charsOfUnits.eq_def]
      simp [hlow, hhigh, ih]
    · rw [charsOfUnits, ih]
      rfl

section Strings

variable (read : List StringUnit) (r : Reading) (cs : List Char)

theorem readOn?_shortEscape {letter c : Char} (h : shortEscape? letter = some c) :
    readOn? (.string read) r ('\\' :: letter :: cs) = readOn? (.string (.char c :: read)) r cs := by
  have hu : letter ≠ 'u' := by
    rintro rfl
    cases h
  have hletter : (Lexing.escape read).step? letter = some (.string (.char c :: read), []) := by
    rw [Lexing.step?, if_neg hu, h]
    rfl
  rw [readOn?_silent rfl, readOn?_silent hletter]

theorem hexDigit?_hexChar : ∀ n < 16, Text.hexDigit? (hexChar n) = some n := by decide

theorem readOn?_code {n : Nat} (hn : n < 0x20) :
    readOn? (.string read) r
        ('\\' :: 'u' :: '0' :: '0' :: hexChar (n / 16) :: hexChar (n % 16) :: cs)
      = readOn? (.string (.code n :: read)) r cs := by
  have hhigh : (Lexing.hex read 2 0).step? (hexChar (n / 16))
      = some (.hex read 1 (n / 16), []) := by
    simp [Lexing.step?, hexDigit?_hexChar (n / 16) (by omega)]
  have hlow : (Lexing.hex read 1 (n / 16)).step? (hexChar (n % 16))
      = some (.string (.code n :: read), []) := by
    simp [Lexing.step?, hexDigit?_hexChar (n % 16) (by omega), Nat.div_add_mod]
  have hzeros (rest : List Char) :
      readOn? (.hex read 4 0) r ('0' :: '0' :: rest) = readOn? (.hex read 2 0) r rest :=
    (readOn?_silent rfl r _).trans (readOn?_silent rfl r rest)
  rw [readOn?_silent rfl, readOn?_silent rfl, hzeros, readOn?_silent hhigh, readOn?_silent hlow]

/-- A character of a string is read as its unit. -/
theorem readOn?_escapeChar (c : Char) :
    readOn? (.string read) r (escapeChar c ++ cs) = readOn? (.string (unitOf c :: read)) r cs := by
  rw [escapeChar]
  split_ifs with hquote hslash hb hf hn hr ht hcode
  · rw [hquote]; exact readOn?_shortEscape read r cs rfl
  · rw [hslash]; exact readOn?_shortEscape read r cs rfl
  · rw [hb]; exact readOn?_shortEscape read r cs rfl
  · rw [hf]; exact readOn?_shortEscape read r cs rfl
  · rw [hn]; exact readOn?_shortEscape read r cs rfl
  · rw [hr]; exact readOn?_shortEscape read r cs rfl
  · rw [ht]; exact readOn?_shortEscape read r cs rfl
  · rw [unitOf, if_pos ⟨hcode, by simp [hb, hf, hn, hr, ht]⟩]
    exact readOn?_code read r cs hcode
  · rw [unitOf, if_neg fun h => hcode h.1]
    refine readOn?_silent ?_ r cs
    rw [Lexing.step?, if_neg hquote, if_neg hslash, if_neg hcode]

theorem readOn?_escaped (chars : List Char) :
    readOn? (.string read) r (chars.flatMap escapeChar ++ cs)
      = readOn? (.string ((chars.map unitOf).reverse ++ read)) r cs := by
  induction chars generalizing read with
  | nil => rfl
  | cons c chars ih =>
    rw [List.flatMap_cons, List.append_assoc, readOn?_escapeChar, ih, List.map_cons,
      List.reverse_cons, List.append_assoc]
    rfl

/-- A string is read as one token. -/
theorem readOn?_quoted (s : String) :
    readOn? .between r (quoted (some s) ++ cs)
      = (r.step? (.string (some s))).bind fun r => readOn? .between r cs := by
  have hclose : (Lexing.string ((s.toList.map unitOf).reverse ++ [])).step? '"'
      = some (.between, [.string (some s)]) := by
    simp [Lexing.step?, textOfUnits, charsOfUnits_map_unitOf]
  rw [quoted, List.cons_append, List.append_assoc, readOn?_silent rfl, Option.getD_some,
    readOn?_escaped]
  exact readOn?_token hclose r cs

end Strings

/-! ### Words and numbers -/

section Words

variable (r : Reading) (cs : List Char)

theorem readOn?_null : readOn? .between r (nullWord ++ cs)
    = (r.step? (.word .null)).bind fun r => readOn? .between r cs := by
  show readOn? .between r ('n' :: 'u' :: 'l' :: 'l' :: cs) = _
  rw [readOn?_silent rfl, readOn?_silent rfl, readOn?_silent rfl]
  exact readOn?_token rfl r cs

theorem readOn?_bool (b : Bool) : readOn? .between r (boolWord b ++ cs)
    = (r.step? (.word (.bool b))).bind fun r => readOn? .between r cs := by
  cases b with
  | true =>
    show readOn? .between r ('t' :: 'r' :: 'u' :: 'e' :: cs) = _
    rw [readOn?_silent rfl, readOn?_silent rfl, readOn?_silent rfl]
    exact readOn?_token rfl r cs
  | false =>
    show readOn? .between r ('f' :: 'a' :: 'l' :: 's' :: 'e' :: cs) = _
    rw [readOn?_silent rfl, readOn?_silent rfl, readOn?_silent rfl, readOn?_silent rfl]
    exact readOn?_token rfl r cs

end Words

/-- What may follow a value: nothing, or a character that continues no number. -/
def EndsValue (cs : List Char) : Prop := ∀ c ∈ cs.head?, c ∈ [',', ']', '\x7d']

section Numbers

open Numeral (Scan)

theorem scan_step?_eq_none {c : Char} (hc : c ∈ [',', ']', '\x7d']) (s : Scan) :
    s.step? c = none := by
  obtain ⟨n, stage⟩ := s
  simp only [List.mem_cons, List.not_mem_nil, or_false] at hc
  rcases hc with rfl | rfl | rfl <;> cases stage <;> rfl

/-- The characters between two tokens that do not start a number but mean something. -/
def plainStarts : List Char :=
  [' ', '\n', '\t', '\r', '[', ']', '\x7b', '\x7d', ':', ',', '"', 'n', 't', 'f']

theorem all_plainStarts : plainStarts.all (fun c => (Scan.start? c).isNone) = true := by decide

/-- Where a number starts, nothing else does. -/
theorem step?_of_scan {c : Char} {s : Scan} (h : Scan.start? c = some s) :
    Lexing.between.step? c = some (.number s, []) := by
  have hc : c ∉ plainStarts := by
    intro hmem
    have hnone := List.all_eq_true.1 all_plainStarts c hmem
    rw [h] at hnone
    cases hnone
  simp only [plainStarts, List.mem_cons, List.not_mem_nil, or_false, not_or] at hc
  rw [Lexing.step?, Lexing.start?.eq_def]
  simp [isBlank, hc, h]

theorem readOn?_scan {cs : List Char} {s s' : Scan} (h : cs.foldlM Scan.step? s = some s')
    (r : Reading) (rest : List Char) :
    readOn? (.number s) r (cs ++ rest) = readOn? (.number s') r rest := by
  induction cs generalizing s with
  | nil => cases h; rfl
  | cons c cs ih =>
    rw [List.foldlM_cons] at h
    obtain ⟨next, hnext, h⟩ := Option.bind_eq_some_iff.1 h
    have hstep : (Lexing.number s).step? c = some (.number next, []) := by
      rw [Lexing.step?, hnext]
    rw [List.cons_append, readOn?_silent hstep, ih h]

/-- A number that can end is handed out where a value ends. -/
theorem readOn?_done {s : Scan} {n : Numeral} (hdone : s.done? = some n) {cs : List Char}
    (hcs : EndsValue cs) (r : Reading) :
    readOn? (.number s) r cs = (r.step? (.number n)).bind fun r => readOn? .between r cs := by
  cases cs with
  | nil =>
    have hfinish : (Lexing.number s).rest? [] = some [.number n] := by
      rw [Lexing.rest?, Lexing.finish?, hdone]
      rfl
    rw [readOn?, hfinish]
    rfl
  | cons c cs =>
    -- What ends the number is a token of its own, and both are handed out at once.
    have hc : c ∈ [',', ']', '\x7d'] := hcs c rfl
    obtain ⟨t, ht⟩ : ∃ t, Lexing.between.step? c = some (.between, [t]) := by
      simp only [List.mem_cons, List.not_mem_nil, or_false] at hc
      rcases hc with rfl | rfl | rfl <;> exact ⟨_, rfl⟩
    have hstep : (Lexing.number s).step? c = some (.between, [.number n, t]) := by
      rw [Lexing.step?, scan_step?_eq_none hc, hdone]
      show (Lexing.between.step? c).bind _ = _
      rw [ht]
      rfl
    rw [readOn?_cons hstep, List.foldlM_cons]
    show ((r.step? _).bind fun r => [t].foldlM Reading.step? r).bind _ = _
    rw [Option.bind_assoc]
    exact Option.bind_congr fun r _ => (readOn?_cons ht r cs).symm

/-- A number is read as one token. -/
theorem readOn?_number {n : Numeral} (hn : Numeral.read? n.text = some n) {cs : List Char}
    (hcs : EndsValue cs) (r : Reading) : readOn? .between r (n.text ++ cs)
      = (r.step? (.number n)).bind fun r => readOn? .between r cs := by
  cases htext : n.text with
  | nil =>
    rw [htext] at hn
    cases hn
  | cons c chars =>
    rw [htext] at hn
    obtain ⟨s, hstart, hn⟩ := Option.bind_eq_some_iff.1 hn
    obtain ⟨s', hchars, hdone⟩ := Option.bind_eq_some_iff.1 hn
    rw [List.cons_append, readOn?_silent (step?_of_scan hstart), readOn?_scan hchars,
      readOn?_done hdone hcs]

end Numbers

/-! ### Documents -/

/-- What a document is like that is written in full: its strings and names are texts, and its
numbers can be read. -/
inductive IsPrintable : Json → Prop
  | null : IsPrintable .null
  | bool (b : Bool) : IsPrintable (.bool b)
  | number {n : Numeral} (h : Numeral.read? n.text = some n) : IsPrintable (.number n)
  | text (s : String) : IsPrintable (.ofString s)
  | array {items : List Json} (h : ∀ j ∈ items, IsPrintable j) : IsPrintable (.array items)
  | object {members : List (String × Json)} (h : ∀ m ∈ members, IsPrintable m.2) :
      IsPrintable (.ofMembers members)

/-- A reader that waits for a value inside of what is open; it may also wait for the end of an
array. -/
def AwaitsValue (r : Reading) (stack : List Open) : Prop :=
  ∀ t, t ≠ .closeArray → r.step? t = Reading.startValue stack t

/-- The text of a document is read as this document wherever a value may stand. -/
def ReadsOn (j : Json) : Prop := ∀ (r : Reading) (stack : List Open) (cs : List Char),
  AwaitsValue r stack → EndsValue cs →
    readOn? .between r (j.compact ++ cs) = readOn? .between ⟨stack, .after j⟩ cs

section Documents

variable {stack : List Open} {cs : List Char}

theorem awaitsValue_value : AwaitsValue ⟨stack, .value⟩ stack := fun _ _ => rfl

theorem awaitsValue_itemOrEnd : AwaitsValue ⟨stack, .itemOrEnd⟩ (.array [] :: stack) := by
  intro t ht
  cases t with
  | closeArray => exact absurd rfl ht
  | _ => rfl

theorem endsValue_nil : EndsValue [] := by
  intro c hc
  cases hc

theorem endsValue_cons {c : Char} (h : c ∈ [',', ']', '\x7d']) : EndsValue (c :: cs) := by
  intro x hx
  cases hx
  exact h

/-- The items of an array that is open, and its end. -/
theorem readOn?_compactItems {j : Json} {items : List Json} (h : ∀ k ∈ j :: items, ReadsOn k)
    {done : List Json} {r : Reading} (hr : AwaitsValue r (.array done :: stack)) :
    readOn? .between r (compactItems (j :: items) ++ ']' :: cs)
      = readOn? .between ⟨stack, .after (.array (done.reverse ++ j :: items))⟩ cs := by
  induction items generalizing j done r with
  | nil =>
    have hj := List.forall_mem_singleton.1 h
    rw [compactItems, hj _ _ _ hr (endsValue_cons (by decide)), readOn?_token rfl]
    show readOn? _ ⟨stack, .after (.array (j :: done).reverse)⟩ cs = _
    rw [List.reverse_cons]
  | cons k items ih =>
    obtain ⟨hj, hitems⟩ := List.forall_mem_cons.1 h
    rw [compactItems, List.append_assoc, List.cons_append, hj _ _ _ hr (endsValue_cons (by decide)),
      readOn?_token rfl]
    show readOn? _ ⟨.array (j :: done) :: stack, .value⟩ _ = _
    rw [ih hitems awaitsValue_value, List.reverse_cons, List.append_assoc]
    rfl

/-- A member of an object that is open, up to what follows its value. -/
theorem readOn?_member {m : String × Json} (h : ReadsOn m.2) {done : List (Text × Json)}
    {r : Reading} (hr : ∀ s, r.step? (.string s) = some ⟨stack, .colon done s⟩)
    (hcs : EndsValue cs) :
    readOn? .between r (quoted (some m.1) ++ ':' :: (m.2.compact ++ cs))
      = readOn? .between ⟨.object done (some m.1) :: stack, .after m.2⟩ cs := by
  rw [readOn?_quoted, hr, Option.bind_some, readOn?_token rfl]
  exact h _ _ cs awaitsValue_value hcs

/-- The members of an object that is open, and its end. -/
theorem readOn?_compactMembers {m : String × Json} {members : List (String × Json)}
    (h : ∀ n ∈ m :: members, ReadsOn n.2) {done : List (Text × Json)} {r : Reading}
    (hr : ∀ s, r.step? (.string s) = some ⟨stack, .colon done s⟩) :
    readOn? .between r
        (compactMembers ((m :: members).map fun m => (some m.1, m.2)) ++ '\x7d' :: cs)
      = readOn? .between ⟨stack, .after (.object
          (done.reverse ++ (m :: members).map fun m => (some m.1, m.2)))⟩ cs := by
  induction members generalizing m done r with
  | nil =>
    have hm := List.forall_mem_singleton.1 h
    rw [List.map_singleton, compactMembers, List.append_assoc, List.cons_append,
      readOn?_member hm hr (endsValue_cons (by decide)), readOn?_token rfl]
    show readOn? _ ⟨stack, .after (.object ((some m.1, m.2) :: done).reverse)⟩ cs = _
    rw [List.reverse_cons]
  | cons n members ih =>
    obtain ⟨hm, hmembers⟩ := List.forall_mem_cons.1 h
    rw [List.map_cons, List.map_cons, compactMembers, List.append_assoc, List.append_assoc,
      List.cons_append, List.cons_append, readOn?_member hm hr (endsValue_cons (by decide)),
      readOn?_token rfl]
    show readOn? _ ⟨stack, .name ((some m.1, m.2) :: done)⟩
      (compactMembers ((n :: members).map fun m => (some m.1, m.2)) ++ _) = _
    rw [ih hmembers fun _ => rfl, List.reverse_cons, List.append_assoc]
    rfl

theorem readsOn_of_isPrintable {j : Json} (h : IsPrintable j) : ReadsOn j := by
  induction h with
  | null =>
    intro r stack cs hr _
    rw [compact, readOn?_null, hr (.word .null) (by simp)]
    rfl
  | bool b =>
    intro r stack cs hr _
    rw [compact, readOn?_bool, hr (.word (.bool b)) (by simp)]
    rfl
  | @number n hn =>
    intro r stack cs hr hcs
    rw [compact, readOn?_number hn hcs, hr (.number n) (by simp)]
    rfl
  | text s =>
    intro r stack cs hr _
    rw [ofString, compact, readOn?_quoted, hr (.string (some s)) (by simp)]
    rfl
  | @array items _ ih =>
    -- An array without items ends where its first item could stand.
    intro r stack cs hr _
    rw [compact, List.cons_append, List.append_assoc, readOn?_token rfl, hr .openArray (by simp)]
    show readOn? _ ⟨stack, .itemOrEnd⟩ _ = _
    cases items with
    | nil =>
      show readOn? _ _ (']' :: cs) = _
      rw [readOn?_token rfl]
      rfl
    | cons j items => exact readOn?_compactItems ih awaitsValue_itemOrEnd
  | @object members _ ih =>
    intro r stack cs hr _
    rw [ofMembers, compact, List.cons_append, List.append_assoc, readOn?_token rfl,
      hr .openObject (by simp)]
    show readOn? _ ⟨stack, .nameOrEnd⟩ _ = _
    cases members with
    | nil =>
      show readOn? _ _ ('\x7d' :: cs) = _
      rw [readOn?_token rfl]
      rfl
    | cons m members =>
      have hname : ∀ s, Reading.step? ⟨stack, .nameOrEnd⟩ (.string s) = some ⟨stack, .colon [] s⟩ :=
        fun _ => rfl
      exact readOn?_compactMembers ih hname

end Documents

/-- **Written documents are read back.** -/
theorem read?_compact {j : Json} (h : IsPrintable j) :
    read? (String.ofList j.compact) = some j := by
  have hread : readOn? .between ⟨[], .value⟩ (j.compact ++ []) = some ⟨[], .after j⟩ :=
    readsOn_of_isPrintable h _ _ [] awaitsValue_value endsValue_nil
  rw [read?_eq, String.toList_ofList, ← List.append_nil j.compact, hread]
  rfl

theorem readShallow?_compact {j : Json} (h : IsPrintable j) (hdepth : j.depth ≤ depthLimit) :
    readShallow? (String.ofList j.compact) = some j := by
  rw [readShallow?, read?_compact h]
  exact if_pos hdepth

end SqlUpdate.Json
