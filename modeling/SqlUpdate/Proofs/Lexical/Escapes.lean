import SqlUpdate.Proofs.Lexical.Scan
/-!
# Texts with escapes

Some scanners know a second way to write a character into a text: behind a backslash. A text that is
written with its quotes doubled, and nothing else done to it, is not always read back by them.

* `EscapeRule` — what a backslash and the character behind it stand for.
* `EscapeRule.step`, `EscapeRule.run` — such a scanner, one character at a time; `Scans.append`.
* `EscapeRule.spares` — no backslash is read as the start of an escape that changes the text.
* `scans_enclosed`, `spares_of_scans` — exactly such texts are read back between their quotes.
-/

namespace SqlUpdate

/-! ### Escapes -/

/-- What a backslash and a character stand for: for themselves, or for one character, which is a
backslash only if there are two of them. -/
structure EscapeRule where
  /-- What a backslash in front of the character stands for. -/
  denotes : Char → List Char
  kept_or_single : ∀ c, (denotes c = ['\\', c] ∧ c ≠ '\\' ∧ c ≠ Value.singleQuote) ∨
    ∃ x, denotes c = [x] ∧ (x = '\\' → c = '\\')

/-- A backslash makes the next character an ordinary one. -/
def EscapeRule.plain : EscapeRule where
  denotes c := [c]
  kept_or_single c := .inr ⟨c, rfl, id⟩

/-- The escapes of MySQL: some letters stand for characters that cannot be seen, and wildcards keep
the backslash. -/
def EscapeRule.mysql : EscapeRule where
  denotes
    | '0' => ['\x00']
    | 'b' => ['\x08']
    | 'n' => ['\n']
    | 'r' => ['\r']
    | 't' => ['\t']
    | 'Z' => ['\x1a']
    | '%' => ['\\', '%']
    | '_' => ['\\', '_']
    | c => [c]
  kept_or_single c := by
    split
    all_goals first
      | exact .inl (by decide)
      | exact .inr ⟨_, rfl, by decide⟩
      | exact .inr ⟨c, rfl, id⟩

/-! ### Scanning -/

/-- Where a scanner stands. -/
inductive Place where
  /-- Outside all quoted regions. -/
  | outside
  /-- In a region, behind the first characters of its content. -/
  | inside (quote : Char) (content : List Char)
  /-- In a region, behind a backslash. -/
  | escaped (quote : Char) (content : List Char)
  /-- Behind a quote that ends the region unless another one follows. -/
  | closing (quote : Char) (content : List Char)
  deriving DecidableEq

/-- Whether a quote is one of texts. -/
def quotesText (c : Char) : Bool := c == Value.singleQuote || c == '"'

/-- Whether a character opens the region of a text or of an identifier. -/
def opensQuoted (c : Char) : Bool := quotesText c || c == '\x60'

namespace EscapeRule

/-- One character outside all regions. -/
def stepOutside (c : Char) : List Lexeme × Place :=
  if opensQuoted c then ([], .inside c []) else ([.bare c], .outside)

/-- One character: the lexemes that it ends, and where the scanner stands behind it. -/
def step (rule : EscapeRule) : Place → Char → List Lexeme × Place
  | .outside, c => stepOutside c
  | .inside quote content, c =>
    if c = quote then ([], .closing quote content)
    else if c = '\\' ∧ quotesText quote = true then ([], .escaped quote content)
    else ([], .inside quote (content ++ [c]))
  | .escaped quote content, c => ([], .inside quote (content ++ rule.denotes c))
  | .closing quote content, c =>
    if c = quote then ([], .inside quote (content ++ [c]))
    else (.quoted quote content :: (stepOutside c).1, (stepOutside c).2)

/-- The lexemes of a text, and where the scanner stands at its end. -/
def run (rule : EscapeRule) (p : Place) : List Char → List Lexeme × Place
  | [] => ([], p)
  | c :: cs =>
    let rest := rule.run (rule.step p c).2 cs
    ((rule.step p c).1 ++ rest.1, rest.2)

section Steps

variable {rule : EscapeRule} {quote c : Char} {content : List Char}

theorem step_opens (h : opensQuoted c = true) : rule.step .outside c = ([], .inside c []) :=
  if_pos h

theorem step_bare (h : opensQuoted c = false) : rule.step .outside c = ([.bare c], .outside) :=
  if_neg fun h' => by simp [h] at h'

theorem step_inside_quote :
    rule.step (.inside quote content) quote = ([], .closing quote content) := if_pos rfl

theorem step_closing_quote : rule.step (.closing quote content) quote
    = ([], .inside quote (content ++ [quote])) := if_pos rfl

theorem step_inside (hc : c ≠ quote) (h : ¬ (c = '\\' ∧ quotesText quote = true)) :
    rule.step (.inside quote content) c = ([], .inside quote (content ++ [c])) := by
  rw [step, if_neg hc, if_neg h]

theorem step_backslash : rule.step (.inside Value.singleQuote content) '\\'
    = ([], .escaped Value.singleQuote content) := by
  rw [step, if_neg (by decide), if_pos ⟨rfl, rfl⟩]

theorem step_closing (hc : c ≠ quote) : rule.step (.closing quote content) c
    = (.quoted quote content :: (rule.step .outside c).1, (rule.step .outside c).2) := if_neg hc

end Steps

end EscapeRule

/-- A text takes the scanner from one place to another, past some lexemes. -/
def Scans (rule : EscapeRule) (p : Place) (cs : List Char) (ls : List Lexeme) (q : Place) : Prop :=
  rule.run p cs = (ls, q)

section Scanning

variable {rule : EscapeRule} {p q r : Place} {cs ds : List Char} {ls ms : List Lexeme}

theorem scans_nil : Scans rule p [] [] p := rfl

theorem Scans.cons {c : Char} (hc : rule.step p c = (ls, q)) (h : Scans rule q cs ms r) :
    Scans rule p (c :: cs) (ls ++ ms) r := by
  rw [Scans, EscapeRule.run, hc, show rule.run q cs = (ms, r) from h]

/-- One text behind another. -/
theorem Scans.append (h : Scans rule p cs ls q) (h' : Scans rule q ds ms r) :
    Scans rule p (cs ++ ds) (ls ++ ms) r := by
  induction cs generalizing p ls with
  | nil =>
    cases h
    exact h'
  | cons c cs ih =>
    cases h
    rw [List.append_assoc]
    exact Scans.cons rfl (ih rfl)

/-- A text without quotes is scanned character by character. -/
theorem scans_bare (h : ∀ c ∈ cs, opensQuoted c = false) :
    Scans rule .outside cs (cs.map .bare) .outside := by
  induction cs with
  | nil => exact scans_nil
  | cons c cs ih =>
    rw [List.forall_mem_cons] at h
    exact Scans.cons (EscapeRule.step_bare h.1) (ih h.2)

/-- A region ends where another character than its quote follows. -/
theorem scans_closing {quote c : Char} {content : List Char} (hc : c ≠ quote)
    (h : Scans rule .outside (c :: cs) ls q) :
    Scans rule (.closing quote content) (c :: cs) (.quoted quote content :: ls) q := by
  cases h
  exact Scans.cons (EscapeRule.step_closing hc) rfl

end Scanning

/-! ### Reading back -/

/-- Whether every backslash stands in front of a character that it is kept with. -/
def EscapeRule.spares (rule : EscapeRule) : List Char → Bool
  | [] => true
  | [c] => c != '\\'
  | c :: d :: cs =>
    if c = '\\' then rule.denotes d == ['\\', d] && rule.spares cs else rule.spares (d :: cs)

section ReadingBack

variable {rule : EscapeRule} {quote : Char}

/-- One character of a content, unless it starts an escape. -/
theorem scans_doubled_singleton {c : Char} (h : ¬ (c = '\\' ∧ quotesText quote = true))
    (content : List Char) : Scans rule (.inside quote content) (Quoted.doubled quote [c]) []
      (.inside quote (content ++ [c])) := by
  by_cases hc : c = quote
  · rw [Quoted.doubled, if_pos hc, hc]
    exact Scans.cons EscapeRule.step_inside_quote
      (Scans.cons EscapeRule.step_closing_quote scans_nil)
  · rw [Quoted.doubled, if_neg hc]
    exact Scans.cons (EscapeRule.step_inside hc h) scans_nil

/-- The content of an identifier is read up to its closing quote. -/
theorem scans_doubled_identifier (h : quotesText quote = false) (cs content : List Char) :
    Scans rule (.inside quote content) (Quoted.doubled quote cs) []
      (.inside quote (content ++ cs)) := by
  induction cs generalizing content with
  | nil =>
    rw [List.append_nil]
    exact scans_nil
  | cons c cs ih =>
    have hone : Scans rule (.inside quote content) (Quoted.doubled quote [c]) []
        (.inside quote (content ++ [c])) :=
      scans_doubled_singleton (fun hesc => by simp [h] at hesc) content
    rw [← List.singleton_append, doubled_append, ← List.append_assoc]
    exact hone.append (ih _)

/-- A backslash and another character than the quote are written as they are. -/
theorem doubled_escape {d : Char} (hd : d ≠ Value.singleQuote) (cs : List Char) :
    Quoted.doubled Value.singleQuote ('\\' :: d :: cs)
      = ['\\', d] ++ Quoted.doubled Value.singleQuote cs := by
  simp [Quoted.doubled, hd, show '\\' ≠ Value.singleQuote by decide]

theorem scans_escape (d : Char) (content : List Char) :
    Scans rule (.inside Value.singleQuote content) ['\\', d] []
      (.inside Value.singleQuote (content ++ rule.denotes d)) :=
  Scans.cons EscapeRule.step_backslash (Scans.cons rfl scans_nil)

/-- A backslash is not kept with a quote. -/
theorem ne_singleQuote_of_kept {d : Char} (h : rule.denotes d = ['\\', d]) :
    d ≠ Value.singleQuote := by
  rcases rule.kept_or_single d with ⟨-, -, hd⟩ | ⟨x, hx, -⟩
  · exact hd
  · rw [h] at hx
    cases hx

/-- The content of a text without escapes is read up to its closing quote. -/
theorem scans_doubled_text {cs : List Char} (h : rule.spares cs = true) (content : List Char) :
    Scans rule (.inside Value.singleQuote content) (Quoted.doubled Value.singleQuote cs) []
      (.inside Value.singleQuote (content ++ cs)) := by
  fun_induction rule.spares cs generalizing content with
  | case1 =>
    rw [List.append_nil]
    exact scans_nil
  | case2 c =>
    have hc : c ≠ '\\' := by simpa using h
    exact scans_doubled_singleton (fun hesc => hc hesc.1) content
  | case3 d cs ih =>
    rw [Bool.and_eq_true, beq_iff_eq] at h
    have hescape : Scans rule _ _ _ _ := scans_escape d content
    have hrest := ih h.2 (content ++ ['\\', d])
    rw [h.1] at hescape
    rw [List.append_assoc] at hrest
    rw [doubled_escape (ne_singleQuote_of_kept h.1)]
    exact hescape.append hrest
  | case4 c d cs hc ih =>
    have hrest := ih h (content ++ [c])
    rw [List.append_assoc] at hrest
    rw [← List.singleton_append, doubled_append]
    exact (scans_doubled_singleton (fun hesc => hc hesc.1) content).append hrest

/-- A region that is opened and closed. -/
theorem scans_enclosed {cs : List Char} (hopens : opensQuoted quote = true)
    (hcontent : Scans rule (.inside quote []) (Quoted.doubled quote cs) [] (.inside quote cs)) :
    Scans rule .outside (Quoted.enclosed quote cs) [] (.closing quote cs) :=
  Scans.cons (EscapeRule.step_opens hopens)
    (hcontent.append (Scans.cons EscapeRule.step_inside_quote scans_nil))

/-- A text that is spared is read back, if its quote does not follow. -/
theorem scans_text {t cs : List Char} {c : Char} {ls : List Lexeme} {q : Place}
    (ht : rule.spares t = true) (hc : c ≠ Value.singleQuote)
    (h : Scans rule .outside (c :: cs) ls q) :
    Scans rule .outside (Quoted.enclosed Value.singleQuote t ++ c :: cs)
      (.quoted Value.singleQuote t :: ls) q :=
  (scans_enclosed rfl (scans_doubled_text ht [])).append (scans_closing hc h)

/-- Without backslashes a text is spared by every rule. -/
theorem spares_of_not_mem {cs : List Char} (h : '\\' ∉ cs) : rule.spares cs = true := by
  fun_induction rule.spares cs with
  | case1 => rfl
  | case2 c => exact bne_iff_ne.2 fun hc => h (hc ▸ List.mem_cons_self)
  | case3 d cs _ => exact absurd List.mem_cons_self h
  | case4 c d cs _ ih => exact ih fun hmem => h (List.mem_cons_of_mem c hmem)

end ReadingBack

/-! ### What is not read back -/

/-- What is read already of the region that a scanner stands in. -/
def Place.content? : Place → Option (List Char)
  | .outside => none
  | .inside _ content | .escaped _ content | .closing _ content => some content

section Lost

variable {rule : EscapeRule}

/-- What is read already of a region stays in its content. -/
theorem prefix_of_run {p : Place} {acc cs content : List Char} {quote : Char} {ls : List Lexeme}
    (hp : p.content? = some acc) (h : (rule.run p cs).1 = .quoted quote content :: ls) :
    acc <+: content := by
  induction cs generalizing p acc with
  | nil => cases h
  | cons c cs ih =>
    -- a step that ends no lexeme and reads more
    have hmore {q : Place} (read : List Char) (hstep : rule.step p c = ([], q))
        (hq : q.content? = some (acc ++ read)) : acc <+: content := by
      rw [EscapeRule.run, hstep] at h
      exact (List.prefix_append acc read).trans (ih hq h)
    cases p with
    | outside => cases hp
    | inside q read =>
      cases hp
      by_cases hc : c = q
      · rw [hc] at hmore
        exact hmore [] EscapeRule.step_inside_quote (by simp [Place.content?])
      · by_cases hesc : c = '\\' ∧ quotesText q = true
        · have hstep : rule.step (.inside q acc) c = ([], .escaped q acc) := by
            rw [EscapeRule.step, if_neg hc, if_pos hesc]
          exact hmore [] hstep (by simp [Place.content?])
        · exact hmore [c] (EscapeRule.step_inside hc hesc) rfl
    | escaped q read =>
      cases hp
      exact hmore (rule.denotes c) rfl rfl
    | closing q read =>
      cases hp
      by_cases hc : c = q
      · rw [hc] at hmore
        exact hmore [q] EscapeRule.step_closing_quote rfl
      · rw [EscapeRule.run, EscapeRule.step_closing hc, List.cons_append, List.cons.injEq,
          Lexeme.quoted.injEq] at h
        exact h.1.2 ▸ List.prefix_rfl

theorem Scans.run_append {p q : Place} {cs : List Char} (h : Scans rule p cs [] q)
    (ds : List Char) : (rule.run p (cs ++ ds)).1 = (rule.run q ds).1 :=
  congrArg Prod.fst (h.append rfl)

/-- Where a backslash is due, no other character can be read. -/
theorem eq_backslash_of_run {p : Place} {acc xs ys cs : List Char} {x : Char} {ls : List Lexeme}
    (hp : p.content? = some (acc ++ x :: xs))
    (h : (rule.run p cs).1 = .quoted Value.singleQuote (acc ++ '\\' :: ys) :: ls) :
    x = '\\' ∧ xs <+: ys := by
  have hprefix := prefix_of_run hp h
  rw [List.prefix_append_right_inj] at hprefix
  exact List.cons_prefix_cons.1 hprefix

/-- A quote behind a backslash loses the backslash. -/
theorem run_escaped_quote_ne (acc cs ys : List Char) (ls : List Lexeme) :
    (rule.run (.inside Value.singleQuote acc) ('\\' :: Value.singleQuote :: cs)).1
      ≠ .quoted Value.singleQuote (acc ++ '\\' :: ys) :: ls := by
  intro h
  obtain ⟨x, hx, hback⟩ : ∃ x, rule.denotes Value.singleQuote = [x] ∧ x ≠ '\\' := by
    rcases rule.kept_or_single Value.singleQuote with ⟨-, -, hne⟩ | ⟨x, hx, hback⟩
    · exact absurd rfl hne
    · exact ⟨x, hx, fun h => absurd (hback h) (by decide)⟩
  rw [EscapeRule.run, EscapeRule.run, EscapeRule.step_backslash, EscapeRule.step, hx] at h
  exact hback (eq_backslash_of_run rfl h).1

/-- Behind a quote the content is complete, or the quote belongs to it. -/
theorem run_closing_cases {quote : Char} {acc content cs : List Char} {ls : List Lexeme}
    (h : (rule.run (.closing quote acc) cs).1 = .quoted quote content :: ls) :
    content = acc ∨ acc ++ [quote] <+: content := by
  cases cs with
  | nil => cases h
  | cons c cs =>
    by_cases hc : c = quote
    · rw [hc, EscapeRule.run, EscapeRule.step_closing_quote] at h
      exact .inr (prefix_of_run rfl h)
    · rw [EscapeRule.run, EscapeRule.step_closing hc, List.cons_append, List.cons.injEq,
        Lexeme.quoted.injEq] at h
      exact .inl h.1.2.symm

theorem replicate_append_cons (n : Nat) (c : Char) (cs : List Char) :
    List.replicate n c ++ c :: cs = c :: (List.replicate n c ++ cs) := by
  rw [List.append_cons, ← List.replicate_succ', List.replicate_succ, List.cons_append]

/-- Let the scanner have read some of a text, have lost the backslashes that came next to escapes,
and stand in front of the rest. If its region holds the whole text in the end, then none was lost
and the rest is spared. -/
theorem spares_of_run {cs : List Char} (acc after : List Char) (lost : Nat) {ls : List Lexeme}
    (h : (rule.run (.inside Value.singleQuote acc)
        (Quoted.doubled Value.singleQuote cs ++ Value.singleQuote :: after)).1
      = .quoted Value.singleQuote (acc ++ (List.replicate lost '\\' ++ cs)) :: ls) :
    lost = 0 ∧ rule.spares cs = true := by
  fun_induction rule.spares cs generalizing acc lost with
  | case1 =>
    cases lost with
    | zero => exact ⟨rfl, rfl⟩
    | succ n =>
      rw [Quoted.doubled, List.nil_append, EscapeRule.run, EscapeRule.step_inside_quote] at h
      rcases run_closing_cases h with hcontent | hquote
      · simp at hcontent
      · rw [List.prefix_append_right_inj] at hquote
        exact absurd (List.cons_prefix_cons.1 hquote).1 (by decide)
  | case2 c =>
    by_cases hc : c = '\\'
    · rw [hc, replicate_append_cons] at h
      exact absurd h (run_escaped_quote_ne _ _ _ _)
    · rw [(scans_doubled_singleton (fun hesc => hc hesc.1) acc).run_append] at h
      cases lost with
      | zero => exact ⟨rfl, bne_iff_ne.2 hc⟩
      | succ n => exact absurd (eq_backslash_of_run rfl h).1 hc
  | case3 d cs ih =>
    by_cases hd : d = Value.singleQuote
    · rw [hd, replicate_append_cons] at h
      exact absurd h (run_escaped_quote_ne _ _ _ _)
    · rw [doubled_escape hd, List.append_assoc, (scans_escape d acc).run_append] at h
      rcases rule.kept_or_single d with ⟨hkept, hback, -⟩ | ⟨x, hx, hback⟩
      · rw [hkept] at h
        cases lost with
        | zero =>
          have hrest := ih (acc ++ ['\\', d]) 0 (by simpa using h)
          simp [hkept, hrest.2]
        | succ n =>
          -- the backslash in front of `d` is due where `d` is read
          rw [replicate_append_cons, List.replicate_succ] at h
          obtain ⟨-, hnext⟩ := eq_backslash_of_run rfl h
          exact absurd (List.cons_prefix_cons.1 hnext).1 hback
      · -- of two backslashes one is lost, and is missing from here on
        rw [hx, replicate_append_cons] at h
        obtain rfl := (eq_backslash_of_run rfl h).1
        obtain rfl := hback rfl
        have hrest := ih (acc ++ ['\\']) (lost + 1)
          (by simpa [List.replicate_succ, replicate_append_cons] using h)
        exact absurd hrest.1 (Nat.succ_ne_zero lost)
  | case4 c d cs hc ih =>
    rw [show c :: d :: cs = [c] ++ (d :: cs) from rfl, doubled_append, List.append_assoc,
      (scans_doubled_singleton (fun hesc => hc hesc.1) acc).run_append] at h
    cases lost with
    | zero => exact ih (acc ++ [c]) 0 (by simpa using h)
    | succ n => exact absurd (eq_backslash_of_run rfl h).1 hc

/-- Only texts that are spared are read back, whatever follows them. -/
theorem spares_of_scans {t after : List Char} {ls : List Lexeme} {q : Place}
    (h : Scans rule .outside (Quoted.enclosed Value.singleQuote t ++ after)
      (.quoted Value.singleQuote t :: ls) q) : rule.spares t = true := by
  have hopens : Scans rule .outside [Value.singleQuote] [] (.inside Value.singleQuote []) :=
    Scans.cons (EscapeRule.step_opens rfl) scans_nil
  have hread := congrArg Prod.fst h
  rw [Quoted.enclosed, ← List.singleton_append, List.append_assoc, hopens.run_append,
    List.append_assoc] at hread
  exact (spares_of_run [] after 0 hread).2

end Lost

end SqlUpdate
