/-!
# Cutting text

* `isBlank` — the characters that Unicode calls white space.
* `trim` — a text without the blanks at its ends.
* `splitOnce?`, `splitAll` — the parts of a text before and behind a character.
* `lower` — a text with the upper-case letters of ASCII made small.

All of them work on lists of characters, and `splitAll` on bytes, too.
-/

namespace SqlUpdate.Text

/-- The characters with the Unicode property of white space. -/
def isBlank (c : Char) : Bool :=
  let n := c.toNat
  (9 ≤ n && n ≤ 13) || n == 0x20 || n == 0x85 || n == 0xA0 || n == 0x1680
    || (0x2000 ≤ n && n ≤ 0x200A) || n == 0x2028 || n == 0x2029 || n == 0x202F || n == 0x205F
    || n == 0x3000

/-- The characters without the blanks in front. -/
def trimLeft (cs : List Char) : List Char := cs.dropWhile isBlank

/-- The characters without the blanks at both ends. -/
def trim (cs : List Char) : List Char := (trimLeft (trimLeft cs).reverse).reverse

/-- The characters before and behind the first occurrence of one. -/
def splitOnce? (sep : Char) : List Char → Option (List Char × List Char)
  | [] => none
  | c :: cs =>
    if c = sep then some ([], cs) else (splitOnce? sep cs).map fun p => (c :: p.1, p.2)

/-- Puts an element in front of the first of several parts. -/
def consFirst {α : Type} (c : α) : List (List α) → List (List α)
  | [] => [[c]]
  | p :: ps => (c :: p) :: ps

/-- The parts between the occurrences of an element, one more than there are occurrences. -/
def splitAll {α : Type} [DecidableEq α] (sep : α) : List α → List (List α)
  | [] => [[]]
  | c :: cs => if c = sep then [] :: splitAll sep cs else consFirst c (splitAll sep cs)

/-- The characters with the upper-case letters of ASCII made small. -/
def lower (cs : List Char) : List Char := cs.map Char.toLower

/-- The characters behind some leading ones, if those are there. -/
def dropLeading? : List Char → List Char → Option (List Char)
  | [], cs => some cs
  | _ :: _, [] => none
  | p :: ps, c :: cs => if p = c then dropLeading? ps cs else none

/-- The characters that are left stand behind the leading ones. -/
theorem eq_append_of_dropLeading? {leading cs rest : List Char}
    (h : dropLeading? leading cs = some rest) : cs = leading ++ rest := by
  induction leading generalizing cs with
  | nil => cases h; rfl
  | cons p leading ih =>
    cases cs with
    | nil => cases h
    | cons c cs =>
      by_cases hc : p = c
      · rw [dropLeading?, if_pos hc] at h
        rw [ih h, hc]; rfl
      · rw [dropLeading?, if_neg hc] at h
        cases h

/-- What is cut apart is put together again. -/
theorem splitOnce?_eq_some {sep : Char} {cs before behind : List Char}
    (h : splitOnce? sep cs = some (before, behind)) : cs = before ++ sep :: behind := by
  induction cs generalizing before with
  | nil => simp [splitOnce?] at h
  | cons c cs ih =>
    by_cases hc : c = sep
    · simp only [splitOnce?, hc, if_true, Option.some.injEq, Prod.mk.injEq] at h
      rw [← h.1, ← h.2, hc]; rfl
    · simp only [splitOnce?, hc, if_false, Option.map_eq_some_iff, Prod.mk.injEq] at h
      obtain ⟨⟨a, b⟩, hab, rfl, rfl⟩ := h
      rw [ih hab]; rfl

/-- The text is cut at the first occurrence of the character. -/
theorem not_mem_of_splitOnce?_eq_some {sep : Char} {cs before behind : List Char}
    (h : splitOnce? sep cs = some (before, behind)) : sep ∉ before := by
  induction cs generalizing before with
  | nil => simp [splitOnce?] at h
  | cons c cs ih =>
    by_cases hc : c = sep
    · simp only [splitOnce?, hc, if_true, Option.some.injEq, Prod.mk.injEq] at h
      rw [← h.1]
      exact List.not_mem_nil
    · simp only [splitOnce?, hc, if_false, Option.map_eq_some_iff, Prod.mk.injEq] at h
      obtain ⟨⟨a, b⟩, hab, rfl, rfl⟩ := h
      exact List.not_mem_cons_of_ne_of_not_mem (Ne.symm hc) (ih hab)

end SqlUpdate.Text
