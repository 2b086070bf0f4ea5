import SqlUpdate.Update.Compile
/-!
# Quoted regions of a text

A text of SQL is scanned from left to right. Single quotes and the quotes of identifiers open a
region that ends at the same quote, unless that quote is written twice.

* `Lexeme` — a character outside all regions, or a whole region.
* `scan` — the lexemes of a text; there are none if the last region is left open.
* `scan_append` — text without quotes is scanned character by character.
* `scan_enclosed` — a quoted text is one region, whatever it holds.
* `scan_text` — the lexemes of a text are all of it.
* `Piece.lexemes` — the lexemes of a piece.
-/

namespace SqlUpdate

/-- What a scanner finds in a text. -/
inductive Lexeme where
  /-- A character outside all quoted regions. -/
  | bare (c : Char)
  /-- A quoted region: its quote and its content. -/
  | quoted (quote : Char) (content : List Char)
  deriving DecidableEq, Repr

/-- Where a scanner stands. -/
inductive Region where
  /-- Outside all quoted regions. -/
  | outside
  /-- In a region, behind the first characters of its content. -/
  | inside (quote : Char) (content : List Char)
  /-- Behind a quote that ends the region unless another one follows. -/
  | closing (quote : Char) (content : List Char)

/-- Whether a character opens a region where identifiers have the given quote. -/
def opensRegion (identifierQuote c : Char) : Bool := c == Value.singleQuote || c == identifierQuote

/-- The lexemes of the rest of a text. -/
def scanFrom (identifierQuote : Char) : Region → List Char → Option (List Lexeme)
  | .outside, [] => some []
  | .inside _ _, [] => none
  | .closing quote content, [] => some [.quoted quote content]
  | .outside, c :: cs =>
    if opensRegion identifierQuote c then scanFrom identifierQuote (.inside c []) cs
    else (scanFrom identifierQuote .outside cs).map (.bare c :: ·)
  | .inside quote content, c :: cs =>
    if c = quote then scanFrom identifierQuote (.closing quote content) cs
    else scanFrom identifierQuote (.inside quote (content ++ [c])) cs
  | .closing quote content, c :: cs =>
    if c = quote then scanFrom identifierQuote (.inside quote (content ++ [c])) cs
    else if opensRegion identifierQuote c then
      (scanFrom identifierQuote (.inside c []) cs).map (.quoted quote content :: ·)
    else (scanFrom identifierQuote .outside cs).map fun ls => .quoted quote content :: .bare c :: ls

/-- The lexemes of a text, if every region is closed. -/
def scan (identifierQuote : Char) (cs : List Char) : Option (List Lexeme) :=
  scanFrom identifierQuote .outside cs

/-- What a lexeme stands for in a text. -/
def Lexeme.text : Lexeme → List Char
  | .bare c => [c]
  | .quoted quote content => Quoted.enclosed quote content

/-- The characters in front of where a scanner stands that are in no lexeme yet. -/
def Region.text : Region → List Char
  | .outside => []
  | .inside quote content => quote :: Quoted.doubled quote content
  | .closing quote content => Quoted.enclosed quote content

section Scan

variable {q : Char}

theorem doubled_append (quote : Char) (cs ds : List Char) :
    Quoted.doubled quote (cs ++ ds) = Quoted.doubled quote cs ++ Quoted.doubled quote ds := by
  induction cs with
  | nil => rfl
  | cons c cs ih =>
    rw [List.cons_append, Quoted.doubled, Quoted.doubled, ih]
    split <;> rfl

/-- What a scanner has read and what it still reads are in its lexemes. -/
theorem scanFrom_text (region : Region) (cs : List Char) {ls : List Lexeme}
    (h : scanFrom q region cs = some ls) : region.text ++ cs = ls.flatMap Lexeme.text := by
  fun_induction scanFrom q region cs generalizing ls with
  | case1 => cases h; rfl
  | case2 => cases h
  | case3 => cases h; simp [Region.text, Lexeme.text]
  | case4 c cs _ ih => exact ih h
  | case5 c cs _ ih =>
    obtain ⟨ms, hms, rfl⟩ := Option.map_eq_some_iff.1 h
    rw [List.flatMap_cons, ← ih hms]
    rfl
  | case6 content c cs ih =>
    rw [← ih h]
    simp [Region.text, Quoted.enclosed]
  | case7 quote content c cs hc ih =>
    rw [← ih h]
    simp [Region.text, doubled_append, Quoted.doubled, hc]
  | case8 content c cs ih =>
    rw [← ih h]
    simp [Region.text, Quoted.enclosed, doubled_append, Quoted.doubled]
  | case9 quote content c cs _ _ ih =>
    obtain ⟨ms, hms, rfl⟩ := Option.map_eq_some_iff.1 h
    rw [List.flatMap_cons, ← ih hms]
    rfl
  | case10 quote content c cs _ _ ih =>
    obtain ⟨ms, hms, rfl⟩ := Option.map_eq_some_iff.1 h
    rw [List.flatMap_cons, List.flatMap_cons, ← ih hms]
    rfl

/-- The lexemes of a text, one after another, are the text. -/
theorem scan_text {cs : List Char} {ls : List Lexeme} (h : scan q cs = some ls) :
    ls.flatMap Lexeme.text = cs :=
  (scanFrom_text .outside cs h).symm

@[simp] theorem scan_nil : scan q [] = some [] := rfl

/-- A character that opens no region stands for itself. -/
theorem scan_cons {c : Char} (h : opensRegion q c = false) (rest : List Char) :
    scan q (c :: rest) = (scan q rest).map (.bare c :: ·) := by
  rw [scan, scanFrom, h]
  rfl

/-- Text that opens no region is scanned character by character. -/
theorem scan_append {cs : List Char} (h : ∀ c ∈ cs, opensRegion q c = false) (rest : List Char) :
    scan q (cs ++ rest) = (scan q rest).map (cs.map .bare ++ ·) := by
  induction cs with
  | nil => simp
  | cons c cs ih =>
    rw [List.cons_append, scan_cons (h c List.mem_cons_self),
      ih fun c hc => h c (List.mem_cons_of_mem _ hc), Option.map_map]
    rfl

/-- A region ends where no further quote follows. -/
theorem scanFrom_closing {quote : Char} {rest : List Char} (h : rest.head? ≠ some quote)
    (content : List Char) :
    scanFrom q (.closing quote content) rest = (scan q rest).map (.quoted quote content :: ·) := by
  cases rest with
  | nil => rfl
  | cons c rest =>
    have hc : c ≠ quote := fun hc => h (by rw [hc]; rfl)
    rw [scan, scanFrom, scanFrom, if_neg hc]
    cases opensRegion q c with
    | true => rfl
    | false => simp [Option.map_map, Function.comp_def]

/-- The content of a region is read up to its closing quote. -/
theorem scanFrom_doubled {quote : Char} {rest : List Char} (h : rest.head? ≠ some quote)
    (cs content : List Char) :
    scanFrom q (.inside quote content) (Quoted.doubled quote cs ++ quote :: rest)
      = (scan q rest).map (.quoted quote (content ++ cs) :: ·) := by
  induction cs generalizing content with
  | nil =>
    rw [Quoted.doubled, List.nil_append, scanFrom, if_pos rfl, List.append_nil]
    exact scanFrom_closing h content
  | cons c cs ih =>
    have hsplit : content ++ c :: cs = (content ++ [c]) ++ cs := by simp
    by_cases hc : c = quote
    · rw [Quoted.doubled, if_pos hc, List.cons_append, List.cons_append, scanFrom, if_pos rfl,
        scanFrom, if_pos rfl, ih, hsplit, hc]
    · rw [Quoted.doubled, if_neg hc, List.cons_append, scanFrom, if_neg hc, ih, hsplit]

/-- A quoted text is one region, if its quote does not follow. -/
theorem scan_enclosed {quote : Char} {rest : List Char} (hq : opensRegion q quote = true)
    (h : rest.head? ≠ some quote) (cs : List Char) :
    scan q (Quoted.enclosed quote cs ++ rest) = (scan q rest).map (.quoted quote cs :: ·) := by
  rw [Quoted.enclosed, List.cons_append, List.append_assoc, List.singleton_append, scan, scanFrom,
    hq, if_pos rfl, scanFrom_doubled h cs [], List.nil_append]

end Scan

/-! ### Pieces -/

/-- The lexemes of a literal. -/
def Value.lexemes : Value → List Lexeme
  | .text s => [.quoted singleQuote s.toList]
  | .blob bytes => [.bare 'X', .quoted singleQuote (bytes.flatMap hexPair)]
  | v => v.literal.toList.map .bare

namespace Piece

/-- The lexemes of a piece. -/
def lexemes (d : Dialect) (r : Reading) : Piece → List Lexeme
  | .sql s | .raw s => s.toList.map .bare
  | .name s => if isPlainName s then s.toList.map .bare else [.quoted d.quote s.toList]
  | .argument a =>
    match r with
    | .prepared => [.bare '?']
    | .inlined => a.value.lexemes
  | .literal v => v.lexemes

end Piece

end SqlUpdate
