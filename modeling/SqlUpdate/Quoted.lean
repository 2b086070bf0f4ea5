/-!
# Text between quotes

A quoted text stands between two quote characters, and a quote character inside it is written twice.

* `doubled`, `enclosed` — the characters as they are written.
* `read?` / `read?_enclosed` — reads a quoted text back, provided that no quote character follows.
-/

namespace SqlUpdate.Quoted

/-- The characters with every quote character written twice. -/
def doubled (quote : Char) : List Char → List Char
  | [] => []
  | c :: cs => if c = quote then quote :: quote :: doubled quote cs else c :: doubled quote cs

/-- The characters between quotes. -/
def enclosed (quote : Char) (cs : List Char) : List Char :=
  quote :: (doubled quote cs ++ [quote])

/-- Reads up to the closing quote, and gives back what follows it. -/
def readRest? (quote : Char) : List Char → Option (List Char × List Char)
  | [] => none
  | c :: cs =>
    if c = quote then
      match cs with
      | d :: rest =>
        if d = quote then (readRest? quote rest).map fun r => (quote :: r.1, r.2)
        else some ([], cs)
      | [] => some ([], [])
    else (readRest? quote cs).map fun r => (c :: r.1, r.2)

/-- Reads a quoted text at the head of a text, and gives back what follows it. -/
def read? (quote : Char) : List Char → Option (List Char × List Char)
  | [] => none
  | c :: cs => if c = quote then readRest? quote cs else none

/-- Reading stops at the closing quote of what was written, if no quote follows. -/
theorem readRest?_doubled (quote : Char) (cs rest : List Char) (h : rest.head? ≠ some quote) :
    readRest? quote (doubled quote cs ++ quote :: rest) = some (cs, rest) := by
  induction cs with
  | nil =>
    cases rest with
    | nil => simp [doubled, readRest?]
    | cons d rest => simp_all [doubled, readRest?]
  | cons c cs ih =>
    by_cases hc : c = quote
    · subst hc; simp [doubled, readRest?, ih]
    · rw [doubled, if_neg hc, List.cons_append, readRest?.eq_def]
      simp [hc, ih]

/-- A quoted text is read back, if no quote follows. -/
theorem read?_enclosed (quote : Char) (cs rest : List Char) (h : rest.head? ≠ some quote) :
    read? quote (enclosed quote cs ++ rest) = some (cs, rest) := by
  simp [read?, enclosed, readRest?_doubled quote cs rest h]

end SqlUpdate.Quoted
