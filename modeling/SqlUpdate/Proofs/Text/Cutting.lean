import Mathlib.Data.List.DropRight
import SqlUpdate.Text.Cut
/-!
# Cutting texts apart and putting them together

* `trim_append`, `trimRight_append`, `eq_append_trim` — blanks at the ends of a text are what `trim`
  takes away, and nothing else.
* `splitOnce?_eq_some_iff` — a text is cut at the first separator.
* `splitAll_eq_cons_iff` — a text is put together from the parts between its separators.
* `map_trimRight_splitAll` — blanks behind a text are blanks behind its last part.
-/

namespace SqlUpdate.Text

/-! ### Blanks at the ends -/

/-- The characters without the blanks behind. -/
def trimRight (cs : List Char) : List Char := cs.rdropWhile isBlank

/-- Blanks and nothing else. -/
def Blanks (cs : List Char) : Prop := ∀ c ∈ cs, isBlank c = true

instance (cs : List Char) : Decidable (Blanks cs) := List.decidableBAll _ cs

/-- No blanks at all. -/
def Solid (cs : List Char) : Prop := ∀ c ∈ cs, isBlank c = false

instance (cs : List Char) : Decidable (Solid cs) := List.decidableBAll _ cs

theorem trim_eq (cs : List Char) : trim cs = trimRight (trimLeft cs) := rfl

theorem trimLeft_append {blanks : List Char} (h : Blanks blanks) (cs : List Char) :
    trimLeft (blanks ++ cs) = trimLeft cs := List.dropWhile_append_of_pos h

theorem trimLeft_eq_self {cs : List Char} (h : ∀ c ∈ cs.head?, isBlank c = false) :
    trimLeft cs = cs := by
  cases cs with
  | nil => rfl
  | cons c cs => exact List.dropWhile_cons_of_neg (by simp [h c rfl])

theorem trimRight_append {blanks : List Char} (h : Blanks blanks) (cs : List Char) :
    trimRight (cs ++ blanks) = trimRight cs := by
  have hreverse : ∀ c ∈ blanks.reverse, isBlank c = true := fun c hc => h c (List.mem_reverse.1 hc)
  rw [trimRight, List.rdropWhile, List.reverse_append, List.dropWhile_append_of_pos hreverse]
  rfl

/-- A character that is no blank ends the blanks behind a text. -/
theorem trimRight_append_cons {c : Char} (hc : isBlank c = false) (ds cs : List Char) :
    trimRight (ds ++ c :: cs) = ds ++ c :: trimRight cs := by
  induction cs using List.reverseRecOn with
  | nil => exact List.rdropWhile_concat_neg _ _ _ (by simp [hc])
  | append_singleton cs x ih =>
    rw [← List.cons_append, ← List.append_assoc]
    by_cases hx : isBlank x = true
    · rw [trimRight, List.rdropWhile_concat_pos _ _ _ hx, ← trimRight, ih, trimRight, trimRight,
        List.rdropWhile_concat_pos _ _ _ hx]
    · rw [trimRight, List.rdropWhile_concat_neg _ _ _ hx, trimRight,
        List.rdropWhile_concat_neg _ _ _ hx]
      simp

/-- What stands before the blanks behind a text. -/
theorem eq_trimRight_append (cs : List Char) :
    ∃ blanks, Blanks blanks ∧ cs = trimRight cs ++ blanks :=
  ⟨cs.rtakeWhile isBlank, fun _ hc => List.mem_rtakeWhile_imp hc,
    List.rdropWhile_append_rtakeWhile.symm⟩

theorem trim_append {blanks : List Char} (h : Blanks blanks) (cs : List Char) :
    trim (blanks ++ cs) = trim cs := by
  rw [trim_eq, trimLeft_append h, ← trim_eq]

/-- A text is what is left of it between its blanks. -/
theorem eq_append_trim (cs : List Char) :
    ∃ before behind, Blanks before ∧ Blanks behind ∧ cs = before ++ trim cs ++ behind := by
  obtain ⟨behind, hbehind, hcs⟩ := eq_trimRight_append (trimLeft cs)
  refine ⟨cs.takeWhile isBlank, behind, fun c hc => List.mem_takeWhile_imp hc, hbehind, ?_⟩
  rw [trim_eq, List.append_assoc, ← hcs]
  exact (List.takeWhile_append_dropWhile).symm

theorem trim_append_blanks {blanks : List Char} (h : Blanks blanks) (cs : List Char) :
    trim (cs ++ blanks) = trim cs := by
  rw [trim_eq, trim_eq, trimLeft, trimLeft, List.dropWhile_append]
  split
  · rename_i hcs
    rw [List.isEmpty_iff.1 hcs, List.dropWhile_eq_nil_iff.2 h]
  · exact trimRight_append h _

/-- Taking the blanks behind a text away first changes nothing. -/
theorem trim_trimRight (cs : List Char) : trim (trimRight cs) = trim cs := by
  obtain ⟨blanks, hblanks, hcs⟩ := eq_trimRight_append cs
  exact (trim_append_blanks hblanks _).symm.trans (congrArg trim hcs.symm)

theorem trim_eq_self {cs : List Char} (h : Solid cs) : trim cs = cs := by
  rw [trim_eq, trimLeft_eq_self fun c hc => h c (List.mem_of_mem_head? hc)]
  exact List.rdropWhile_eq_self_iff.2 fun hcs => by simp [h _ (List.getLast_mem hcs)]

/-- Where a text starts without blanks, `trim` takes away only those behind it. -/
theorem trim_append_cons {ds : List Char} (hds : Solid ds) {c : Char} (hc : isBlank c = false)
    (cs : List Char) : trim (ds ++ c :: cs) = ds ++ c :: trimRight cs := by
  have hhead : ∀ x ∈ (ds ++ c :: cs).head?, isBlank x = false := by
    cases ds with
    | nil => rintro x ⟨⟩; exact hc
    | cons d ds => rintro x ⟨⟩; exact hds d List.mem_cons_self
  rw [trim_eq, trimLeft_eq_self hhead, trimRight_append_cons hc]

/-! ### Letters and leading characters -/

theorem toLower_of_isBlank {c : Char} (h : isBlank c = true) : c.toLower = c := by
  have hupper : ¬ (65 ≤ c.toNat ∧ c.toNat ≤ 90) := by
    simp only [isBlank, Bool.or_eq_true, Bool.and_eq_true, decide_eq_true_eq, beq_iff_eq] at h
    omega
  exact dif_neg hupper

/-- What has no small form of its own and is not in a text in small letters is not in the text. -/
theorem not_mem_of_not_mem_lower {c : Char} (hc : c.toLower = c) {cs : List Char}
    (h : c ∉ lower cs) : c ∉ cs :=
  fun hmem => h (hc ▸ List.mem_map_of_mem hmem)

theorem dropLeading?_eq_some_iff {leading cs rest : List Char} :
    dropLeading? leading cs = some rest ↔ cs = leading ++ rest := by
  refine ⟨eq_append_of_dropLeading?, ?_⟩
  rintro rfl
  induction leading with
  | nil => cases rest <;> rfl
  | cons c leading ih => rw [List.cons_append, dropLeading?, if_pos rfl, ih]

/-! ### Separators -/

theorem splitOnce?_eq_some_iff {sep : Char} {cs before behind : List Char} :
    splitOnce? sep cs = some (before, behind) ↔ cs = before ++ sep :: behind ∧ sep ∉ before := by
  constructor
  · exact fun h => ⟨splitOnce?_eq_some h, not_mem_of_splitOnce?_eq_some h⟩
  · rintro ⟨rfl, hsep⟩
    induction before with
    | nil => simp [splitOnce?]
    | cons c before ih =>
      obtain ⟨hc, hsep⟩ := not_or.1 (List.mem_cons.not.1 hsep)
      rw [List.cons_append, splitOnce?, if_neg (Ne.symm hc), ih hsep]
      rfl

theorem splitOnce?_eq_none_iff {sep : Char} {cs : List Char} :
    splitOnce? sep cs = none ↔ sep ∉ cs := by
  induction cs with
  | nil => simp [splitOnce?]
  | cons c cs ih =>
    by_cases hc : c = sep
    · simp [splitOnce?, hc]
    · simp [splitOnce?, hc, ih, Ne.symm hc]

theorem splitAll_of_not_mem {sep : Char} {cs : List Char} (h : sep ∉ cs) :
    splitAll sep cs = [cs] := by
  induction cs with
  | nil => rfl
  | cons c cs ih =>
    obtain ⟨hc, hsep⟩ := not_or.1 (List.mem_cons.not.1 h)
    rw [splitAll, if_neg (Ne.symm hc), ih hsep]
    rfl

theorem splitAll_append {sep : Char} {part : List Char} (h : sep ∉ part) (cs : List Char) :
    splitAll sep (part ++ sep :: cs) = part :: splitAll sep cs := by
  induction part with
  | nil => simp [splitAll]
  | cons c part ih =>
    obtain ⟨hc, hsep⟩ := not_or.1 (List.mem_cons.not.1 h)
    rw [List.cons_append, splitAll, if_neg (Ne.symm hc), ih hsep]
    rfl

theorem exists_splitAll_eq_cons (sep : Char) (cs : List Char) :
    ∃ part parts, splitAll sep cs = part :: parts := by
  cases cs with
  | nil => exact ⟨_, _, rfl⟩
  | cons c cs =>
    rw [splitAll]
    split
    · exact ⟨_, _, rfl⟩
    · cases splitAll sep cs with
      | nil => exact ⟨_, _, rfl⟩
      | cons p ps => exact ⟨_, _, rfl⟩

/-- The parts of a text are those that it is put together from. -/
theorem splitAll_eq_cons_iff {sep : Char} {cs part : List Char} {parts : List (List Char)} :
    splitAll sep cs = part :: parts ↔
      cs = part ++ parts.flatMap (sep :: ·) ∧ ∀ p ∈ part :: parts, sep ∉ p := by
  constructor
  · intro h
    induction cs generalizing part parts with
    | nil =>
      cases h
      simp
    | cons c cs ih =>
      obtain ⟨p, ps, hps⟩ := exists_splitAll_eq_cons sep cs
      obtain ⟨hcs, hsep⟩ := ih hps
      rw [splitAll, hps] at h
      by_cases hc : c = sep
      · rw [if_pos hc] at h
        cases h
        refine ⟨by rw [hc, hcs]; rfl, List.forall_mem_cons.2 ⟨List.not_mem_nil, hsep⟩⟩
      · rw [if_neg hc] at h
        cases h
        obtain ⟨hp, hrest⟩ := List.forall_mem_cons.1 hsep
        exact ⟨congrArg (c :: ·) hcs,
          List.forall_mem_cons.2 ⟨List.not_mem_cons_of_ne_of_not_mem (Ne.symm hc) hp, hrest⟩⟩
  · rintro ⟨rfl, hsep⟩
    induction parts generalizing part with
    | nil => rw [List.flatMap_nil, List.append_nil, splitAll_of_not_mem (hsep _ List.mem_cons_self)]
    | cons q parts ih =>
      obtain ⟨hpart, hparts⟩ := List.forall_mem_cons.1 hsep
      rw [List.flatMap_cons, List.cons_append, splitAll_append hpart, ih hparts]

theorem tail_splitAll_append {sep : Char} {front : List Char} (h : sep ∉ front) (cs : List Char) :
    (splitAll sep (front ++ cs)).tail = (splitAll sep cs).tail := by
  obtain ⟨part, parts, hparts⟩ := exists_splitAll_eq_cons sep cs
  obtain ⟨rfl, hall⟩ := splitAll_eq_cons_iff.1 hparts
  obtain ⟨hpart, hrest⟩ := List.forall_mem_cons.1 hall
  have hfront : sep ∉ front ++ part := fun hmem => (List.mem_append.1 hmem).elim h hpart
  rw [hparts, splitAll_eq_cons_iff.2
    ⟨(List.append_assoc _ _ _).symm, List.forall_mem_cons.2 ⟨hfront, hrest⟩⟩]
  rfl

/-- Blanks behind a text are blanks behind its last part. -/
theorem map_trimRight_splitAll {sep : Char} (hsep : isBlank sep = false) (cs : List Char) :
    (splitAll sep (trimRight cs)).map trimRight = (splitAll sep cs).map trimRight := by
  obtain ⟨blanks, hblanks, hcs⟩ := eq_trimRight_append cs
  obtain ⟨part, parts, hparts⟩ := exists_splitAll_eq_cons sep (trimRight cs)
  obtain ⟨hjoin, hall⟩ := splitAll_eq_cons_iff.1 hparts
  obtain ⟨hpart, hrest⟩ := List.forall_mem_cons.1 hall
  have hlast {p : List Char} (hp : sep ∉ p) : sep ∉ p ++ blanks := by
    intro hmem
    rcases List.mem_append.1 hmem with hmem | hmem
    · exact hp hmem
    · rw [hblanks sep hmem] at hsep
      cases hsep
  rcases List.eq_nil_or_concat' parts with rfl | ⟨init, last, rfl⟩
  · have hsplit : splitAll sep cs = [part ++ blanks] := by
      refine splitAll_eq_cons_iff.2 ⟨?_, List.forall_mem_singleton.2 (hlast hpart)⟩
      rw [hcs, hjoin]
      simp
    rw [hparts, hsplit, List.map_singleton, List.map_singleton, trimRight_append hblanks]
  · have hinit : ∀ p ∈ init, sep ∉ p := fun p hp => hrest p (List.mem_append_left _ hp)
    have hsplit : splitAll sep cs = part :: (init ++ [last ++ blanks]) := by
      refine splitAll_eq_cons_iff.2 ⟨?_, List.forall_mem_cons.2 ⟨hpart, fun p hp => ?_⟩⟩
      · rw [hcs, hjoin]
        simp
      · rcases List.mem_append.1 hp with hp | hp
        · exact hinit p hp
        · rw [List.mem_singleton.1 hp]
          exact hlast (hrest last (by simp))
    rw [hparts, hsplit]
    simp [trimRight_append hblanks]

end SqlUpdate.Text
