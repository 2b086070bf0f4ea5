import Mathlib.Data.List.Forall2
import Mathlib.Data.List.Nodup
import SqlUpdate.StatementFile.Json
/-!
# Shapes of documents

A shape says which documents have it, and which documents differ only in the order of members where
that means nothing. It is put together as its reader is: a record of fields, a list of items, and
documents that are looked at as a whole.

* `Shape`, `Field` — a shape, and a member of a record.
* `IsRecord`, `Reordered` — the members of a record, and the same members in another order.
* `Follows` — a reader accepts exactly the documents of a shape, and what it reads does not depend
  on the order of members. `FollowsField` and `FollowsFields` say so of one member and of several.
* `follows_atom`, `follows_list`, `follows_record` — one lemma for each way of putting shapes
  together.
-/

namespace SqlUpdate.Json

/-! ### Shapes -/

/-- A shape of documents. -/
structure Shape where
  /-- The document has the shape. -/
  Fits : Json → Prop
  /-- The documents differ at most in the order of members. -/
  Alike : Json → Json → Prop
  /-- Every document is like itself. -/
  alike_self : ∀ j, Alike j j

/-- A member of a record. -/
structure Field where
  /-- Its name. -/
  name : String
  /-- Whether it must be there. -/
  required : Bool
  /-- The shape of its value. -/
  shape : Shape

/-- A member that must be there. -/
def Field.must (name : String) (S : Shape) : Field := ⟨name, true, S⟩

/-- A member that may be missing. -/
def Field.may (name : String) (S : Shape) : Field := ⟨name, false, S⟩

/-- The members of a record. -/
structure IsRecord (fields : List Field) (ms : List (String × Json)) : Prop where
  /-- No member is repeated. -/
  once : (ms.map Prod.fst).Nodup
  /-- Every member is a known one and has a value of its shape. -/
  known : ∀ m ∈ ms, ∃ f ∈ fields, f.name = m.1 ∧ f.shape.Fits m.2
  /-- No required member is missing. -/
  required : ∀ f ∈ fields, f.required → f.name ∈ ms.map Prod.fst

/-- Members of one name, whose values differ at most in the order of members. -/
def MemberAlike (fields : List Field) (m n : String × Json) : Prop :=
  m.1 = n.1 ∧ (m.2 = n.2 ∨ ∃ f ∈ fields, f.name = m.1 ∧ f.shape.Alike m.2 n.2)

/-- The same members in another order. -/
def Reordered (fields : List Field) (ms ns : List (String × Json)) : Prop :=
  ∃ ls, ms.Perm ls ∧ List.Forall₂ (MemberAlike fields) ls ns

namespace Shape

/-- Documents that are looked at as a whole. -/
def atom (p : Json → Prop) : Shape := ⟨p, Eq, fun _ => rfl⟩

/-- Arrays of items. -/
def list (S : Shape) : Shape where
  Fits j := ∃ items, j = .array items ∧ ∀ i ∈ items, S.Fits i
  Alike j k := j = k ∨
    ∃ items others, j = .array items ∧ k = .array others ∧ List.Forall₂ S.Alike items others
  alike_self _ := .inl rfl

/-- Objects with certain members, in any order. -/
def record (fields : List Field) : Shape where
  Fits j := ∃ ms, j = ofMembers ms ∧ IsRecord fields ms
  Alike j k := j = k ∨ ∃ ms ns, j = ofMembers ms ∧ k = ofMembers ns ∧ Reordered fields ms ns
  alike_self _ := .inl rfl

end Shape

/-- A text. -/
def IsText (j : Json) : Prop := ∃ s, j = ofString s

/-- One of the given words. -/
def IsWord (words : List String) (j : Json) : Prop := ∃ s ∈ words, j = ofString s

/-- An array of two texts. -/
def IsTextPair (j : Json) : Prop := ∃ s t, j = .array [ofString s, ofString t]

/-- A numeral without sign, fraction and exponent that fits 64 bits. -/
def IsNatural (j : Json) : Prop :=
  ∃ digits, j = .number ⟨false, digits, [], none⟩ ∧ Decimal.value digits < Nat.pow 2 64

/-- The word `null`, or a document of another kind. -/
def OrNull (p : Json → Prop) (j : Json) : Prop := j = .null ∨ p j

/-! ### Readers -/

/-- The reader accepts exactly the documents of a shape, and what it reads does not depend on the
order of members. -/
structure Follows {α : Type} (read : Json → Option α) (S : Shape) : Prop where
  fits : ∀ j, (read j).isSome ↔ S.Fits j
  alike : ∀ {j k}, S.Alike j k → read j = read k

/-- The member is there once, or not at all if it need not be there, and its value has its shape. -/
def Field.Given (f : Field) (ms : List (String × Json)) : Prop :=
  ∃ o, member? f.name ms = some o ∧ (∀ j, o = some j → f.shape.Fits j) ∧
    (f.required → o.isSome)

/-- The members of a name differ at most in the order of their own members. -/
def Field.Same (f : Field) (ms ns : List (String × Json)) : Prop :=
  Option.Rel (Option.Rel f.shape.Alike) (member? f.name ms) (member? f.name ns)

/-- The reader of members looks at one of them. -/
structure FollowsField {α : Type} (read : List (String × Json) → Option α) (f : Field) : Prop where
  given : ∀ ms, (read ms).isSome ↔ f.Given ms
  same : ∀ {ms ns}, f.Same ms ns → read ms = read ns

/-- The reader of members looks at several of them. -/
structure FollowsFields {α : Type} (read : List (String × Json) → Option α) (fields : List Field) :
    Prop where
  given : ∀ ms, (read ms).isSome ↔ ∀ f ∈ fields, f.Given ms
  same : ∀ {ms ns}, (∀ f ∈ fields, f.Same ms ns) → read ms = read ns

section Readers

variable {α β : Type} {S : Shape} {read : Json → Option α}

theorem follows_atom {p : Json → Prop} (h : ∀ j, (read j).isSome ↔ p j) : Follows read (.atom p) :=
  ⟨h, fun hjk => congrArg read hjk⟩

theorem isSome_text?_iff {j : Json} : j.text?.isSome ↔ IsText j := by
  constructor
  · intro h
    match j, h with
    | .string (some s), _ => exact ⟨s, rfl⟩
  · rintro ⟨s, rfl⟩
    rfl

theorem text?_eq_some_iff {j : Json} {s : String} : j.text? = some s ↔ j = ofString s := by
  constructor
  · intro h
    match j, h with
    | .string (some t), h => exact congrArg ofString (Option.some.inj h)
  · rintro rfl
    rfl

theorem isSome_word?_iff {table : String → Option α} {words : List String}
    (h : ∀ s, (table s).isSome ↔ s ∈ words) {j : Json} :
    (word? table j).isSome ↔ IsWord words j := by
  rw [word?, Option.isSome_bind, Option.any_eq_true]
  simp only [text?_eq_some_iff, h, IsWord, and_comm]

theorem isSome_nullable?_iff {p : Json → Prop} (h : ∀ j, (read j).isSome ↔ p j) {j : Json} :
    (nullable? read j).isSome ↔ OrNull p j := by
  rw [nullable?.eq_def, OrNull]
  split
  · simp
  · rename_i hnull
    rw [Option.isSome_map, h, or_iff_right hnull]

theorem isSome_textPair?_iff {j : Json} : (textPair? j).isSome ↔ IsTextPair j := by
  constructor
  · intro h
    obtain ⟨pair, h⟩ := Option.isSome_iff_exists.1 h
    obtain ⟨items, hitems, h⟩ := Option.bind_eq_some_iff.1 h
    match j, items, hitems, h with
    | .array [a, b], [_, _], rfl, h =>
      obtain ⟨s, hs, h⟩ := Option.bind_eq_some_iff.1 h
      obtain ⟨t, ht, h⟩ := Option.bind_eq_some_iff.1 h
      exact ⟨s, t, by rw [text?_eq_some_iff.1 hs, text?_eq_some_iff.1 ht]⟩
  · rintro ⟨s, t, rfl⟩
    rfl

/-- Further digits do not make a number smaller. -/
theorem le_ofDigitChars (m : Nat) (cs : List Char) : m ≤ Nat.ofDigitChars 10 cs m := by
  induction cs generalizing m with
  | nil => exact Nat.le_refl m
  | cons c cs ih =>
    have hmore := ih (10 * m + (c.toNat - '0'.toNat))
    rw [Nat.ofDigitChars_cons]
    omega

/-- No digits are left over exactly if all of them fit 64 bits. -/
theorem leadingDigits_eq_nil_iff {m : Nat} (hm : m < Nat.pow 2 64) (cs : List Char) :
    (leadingDigits m cs).2 = [] ↔ Nat.ofDigitChars 10 cs m < Nat.pow 2 64 := by
  induction cs generalizing m with
  | nil =>
    rw [Nat.ofDigitChars_nil]
    exact ⟨fun _ => hm, fun _ => rfl⟩
  | cons c cs ih =>
    rw [Nat.ofDigitChars_cons, leadingDigits_cons]
    have hpush : pushDigit? m c = if 10 * m + (c.toNat - '0'.toNat) < Nat.pow 2 64
      then some (10 * m + (c.toNat - '0'.toNat)) else none := rfl
    have hmore := le_ofDigitChars (10 * m + (c.toNat - '0'.toNat)) cs
    generalize 10 * m + (c.toNat - '0'.toNat) = n at hpush hmore ⊢
    by_cases hn : n < Nat.pow 2 64
    · rw [hpush, if_pos hn]
      exact ih hn
    · rw [hpush, if_neg hn]
      exact iff_of_false (List.cons_ne_nil c cs) fun h => hn (Nat.lt_of_le_of_lt hmore h)

theorem isSome_natural?_iff {j : Json} : j.natural?.isSome ↔ IsNatural j := by
  cases j with
  | number n =>
    obtain ⟨negative, whole, fraction, exponent⟩ := n
    have hnatural : IsNatural (.number ⟨negative, whole, fraction, exponent⟩) ↔
        (fraction = [] ∧ exponent = none ∧ (leadingDigits 0 whole).2 = []) ∧ negative = false := by
      rw [leadingDigits_eq_nil_iff (by decide), IsNatural]
      simp only [Decimal.value, number.injEq, Numeral.mk.injEq]
      grind
    rw [hnatural, natural?, numberOf?]
    dsimp only
    by_cases hwhole : fraction = [] ∧ exponent = none ∧ (leadingDigits 0 whole).2 = []
    · rw [if_pos hwhole]
      cases negative with
      | false => simp [hwhole]
      | true =>
        -- A number with a minus sign in front is below zero, or it is the zero of a double.
        refine iff_of_false ?_ nofun
        rw [if_pos rfl]
        by_cases hsize : 0 < (leadingDigits 0 whole).1 ∧ (leadingDigits 0 whole).1 ≤ Nat.pow 2 63
        · rw [if_pos hsize]
          have hbelow : ¬ (0 : Int) ≤ -((leadingDigits 0 whole).1 : Int) := by omega
          dsimp only
          rw [if_neg hbelow]
          exact nofun
        · rw [if_neg hsize]
          exact nofun
    · rw [if_neg hwhole]
      cases timesPowerOfTen? _ _ <;> simp [hwhole]
  | null | bool | string | array | object => simp [natural?, IsNatural]

theorem follows_text : Follows text? (.atom IsText) := follows_atom fun _ => isSome_text?_iff

theorem follows_word {table : String → Option α} {words : List String}
    (h : ∀ s, (table s).isSome ↔ s ∈ words) : Follows (word? table) (.atom (IsWord words)) :=
  follows_atom fun _ => isSome_word?_iff h

theorem follows_nullable {p : Json → Prop} (h : Follows read (.atom p)) :
    Follows (nullable? read) (.atom (OrNull p)) :=
  follows_atom fun _ => isSome_nullable?_iff h.fits

theorem follows_textPair : Follows textPair? (.atom IsTextPair) :=
  follows_atom fun _ => isSome_textPair?_iff

theorem follows_natural : Follows natural? (.atom IsNatural) :=
  follows_atom fun _ => isSome_natural?_iff

end Readers

/-! ### Lists -/

section Lists

variable {α : Type} {S : Shape} {read : Json → Option α}

theorem isSome_mapM_iff {items : List Json} :
    (items.mapM read).isSome ↔ ∀ i ∈ items, (read i).isSome := by
  induction items with
  | nil => simp
  | cons i items ih =>
    rw [List.forall_mem_cons, ← ih, List.mapM_cons]
    cases read i <;> cases items.mapM read <;> simp

theorem mapM_congr_of_forall₂ {R : Json → Json → Prop} (h : ∀ i k, R i k → read i = read k)
    {items others : List Json} (hitems : List.Forall₂ R items others) :
    items.mapM read = others.mapM read := by
  induction hitems with
  | nil => rfl
  | cons hik _ ih => rw [List.mapM_cons, List.mapM_cons, h _ _ hik, ih]

theorem follows_list (h : Follows read S) : Follows (listOf? read) (.list S) where
  fits j := by
    cases j with
    | array items =>
      show (items.mapM read).isSome ↔ _
      simp only [isSome_mapM_iff, h.fits]
      constructor
      · exact fun hitems => ⟨items, rfl, hitems⟩
      · rintro ⟨_, ⟨⟩, hitems⟩
        exact hitems
    | null | bool | number | string | object => simp [listOf?, items?, Shape.list]
  alike := by
    rintro j k (rfl | ⟨items, others, rfl, rfl, hitems⟩)
    · rfl
    · exact mapM_congr_of_forall₂ (fun _ _ hik => h.alike hik) hitems

end Lists

/-! ### Members -/

theorem members?_ofMembers (ms : List (String × Json)) : (ofMembers ms).members? = some ms := by
  rw [ofMembers, members?]
  induction ms with
  | nil => rfl
  | cons m ms ih =>
    rw [List.map_cons, namedMembers?, ih]
    rfl

theorem eq_ofMembers_of_members? {j : Json} {ms : List (String × Json)}
    (h : j.members? = some ms) : j = ofMembers ms := by
  cases j with
  | object members =>
    rw [members?] at h
    refine congrArg Json.object ?_
    induction members generalizing ms with
    | nil => cases h; rfl
    | cons m rest ih =>
      obtain ⟨name, j⟩ := m
      obtain ⟨s, rfl, h⟩ := Option.bind_eq_some_iff.1 h
      obtain ⟨ns, hns, h⟩ := Option.bind_eq_some_iff.1 h
      obtain rfl : (s, j) :: ns = ms := Option.some.inj h
      rw [List.map_cons, ← ih hns]
  | null | bool | number | string | array => cases h

/-- The order of members does not matter to what is found. -/
theorem member?_perm {name : String} {ms ls : List (String × Json)} (h : ms.Perm ls) :
    member? name ms = member? name ls := by
  have hfound := h.filter fun m => m.1 = name
  rw [member?, member?]
  generalize List.filter _ ms = found, List.filter _ ls = others at hfound ⊢
  rcases others with _ | ⟨m, _ | ⟨n, rest⟩⟩
  · rw [List.perm_nil.1 hfound]
  · rw [List.perm_singleton.1 hfound]
  · have hlength := hfound.length_eq
    rcases found with _ | ⟨m', _ | ⟨n', rest'⟩⟩
    · cases hlength
    · simp at hlength
    · rfl

/-! ### Fields -/

section Fields

variable {α β : Type} {S : Shape} {read : Json → Option α}

/-- A reader of a member that must be there. -/
theorem followsField_must (name : String) (h : Follows read S) :
    FollowsField (field? name read) (.must name S) where
  given ms := by
    show ((member? name ms).join.bind read).isSome ↔ ∃ o, member? name ms = some o ∧ _
    rcases member? name ms with _ | _ | j
    · simp
    · simp [Field.must]
    · simpa [Field.must] using h.fits j
  same := by
    intro ms ns (hsame : Option.Rel (Option.Rel S.Alike) (member? name ms) (member? name ns))
    show (member? name ms).join.bind read = (member? name ns).join.bind read
    generalize member? name ms = found, member? name ns = other at hsame ⊢
    cases hsame with
    | none => rfl
    | some hsame =>
      cases hsame with
      | none => rfl
      | some hjk => exact h.alike hjk

/-- A reader of a member that may be missing. -/
theorem followsField_may (name : String) (missing : α) (h : Follows read S) :
    FollowsField (fieldOr? name read missing) (.may name S) where
  given ms := by
    rw [fieldOr?]
    show _ ↔ ∃ o, member? name ms = some o ∧ _
    rcases member? name ms with _ | _ | j
    · simp
    · simp [Field.may]
    · simpa [Field.may] using h.fits j
  same := by
    intro ms ns (hsame : Option.Rel (Option.Rel S.Alike) (member? name ms) (member? name ns))
    rw [fieldOr?, fieldOr?]
    generalize member? name ms = found, member? name ns = other at hsame ⊢
    cases hsame with
    | none => rfl
    | some hsame =>
      cases hsame with
      | none => rfl
      | some hjk => exact h.alike hjk

theorem followsFields_nil (a : α) : FollowsFields (fun _ => some a) [] :=
  ⟨fun _ => iff_of_true rfl nofun, fun _ => rfl⟩

/-- One more member in front. -/
theorem FollowsField.bind {x : List (String × Json) → Option α} {f : Field}
    {rest : α → List (String × Json) → Option β} {fields : List Field} (hx : FollowsField x f)
    (hrest : ∀ a, FollowsFields (rest a) fields) :
    FollowsFields (fun ms => (x ms).bind fun a => rest a ms) (f :: fields) where
  given ms := by
    rw [List.forall_mem_cons, ← hx.given ms]
    cases hms : x ms with
    | none => simp
    | some a => simpa [hms] using (hrest a).given ms
  same := by
    intro ms ns hsame
    rw [List.forall_mem_cons] at hsame
    rw [hx.same hsame.1]
    exact Option.bind_congr fun a _ => (hrest a).same hsame.2

end Fields

/-! ### Records -/

section Records

variable {α : Type} {fields : List Field} {ms ns : List (String × Json)}

theorem isClosed_iff {names : List String} :
    isClosed names ms ↔ ∀ m ∈ ms, m.1 ∈ names := by
  simp [isClosed, List.all_eq_true]

/-- A member is given if its name stands once at most, or once if it must, with values of its
shape. -/
theorem Field.given_iff {f : Field} : f.Given ms ↔ (ms.map Prod.fst).count f.name ≤ 1 ∧
    (∀ m ∈ ms, m.1 = f.name → f.shape.Fits m.2) ∧ (f.required → f.name ∈ ms.map Prod.fst) := by
  have hcount : (ms.map Prod.fst).count f.name = (ms.filter fun m => m.1 = f.name).length := by
    rw [List.count, List.countP_map, List.countP_eq_length_filter]
    rfl
  have hname : f.name ∈ ms.map Prod.fst ↔ 0 < (ms.filter fun m => m.1 = f.name).length := by
    rw [← hcount, List.count_pos_iff]
  have hvalues : (∀ m ∈ ms, m.1 = f.name → f.shape.Fits m.2) ↔
      ∀ m ∈ ms.filter fun m => m.1 = f.name, f.shape.Fits m.2 := by
    simp [List.mem_filter]
  rw [hname, hcount, hvalues, Field.Given, member?]
  generalize List.filter _ ms = found
  rcases found with _ | ⟨m, _ | ⟨n, rest⟩⟩
  · simp
  · simp
  · simp

/-- An object is a record exactly if it has no members but the fields, and each of them is given. -/
theorem isRecord_iff (hnames : (fields.map Field.name).Nodup) :
    IsRecord fields ms ↔ isClosed (fields.map Field.name) ms ∧ ∀ f ∈ fields, f.Given ms := by
  rw [isClosed_iff]
  constructor
  · intro h
    refine ⟨fun m hm => ?_, fun f hf => Field.given_iff.2 ⟨?_, fun m hm hname => ?_, ?_⟩⟩
    · obtain ⟨f, hf, hname, -⟩ := h.known m hm
      exact hname ▸ List.mem_map_of_mem hf
    · exact List.nodup_iff_count.1 h.once f.name
    · obtain ⟨g, hg, hgname, hfits⟩ := h.known m hm
      exact List.inj_on_of_nodup_map hnames hg hf (hgname.trans hname) ▸ hfits
    · exact h.required f hf
  · rintro ⟨hclosed, hgiven⟩
    have hfield {m : String × Json} (hm : m ∈ ms) : ∃ f ∈ fields, f.name = m.1 :=
      List.mem_map.1 (hclosed m hm)
    refine ⟨List.nodup_iff_count.2 fun name => ?_, fun m hm => ?_, fun f hf => ?_⟩
    · by_cases hname : name ∈ ms.map Prod.fst
      · obtain ⟨m, hm, rfl⟩ := List.mem_map.1 hname
        obtain ⟨f, hf, hfname⟩ := hfield hm
        exact hfname ▸ (Field.given_iff.1 (hgiven f hf)).1
      · rw [List.count_eq_zero_of_not_mem hname]
        exact Nat.zero_le 1
    · obtain ⟨f, hf, hfname⟩ := hfield hm
      exact ⟨f, hf, hfname, (Field.given_iff.1 (hgiven f hf)).2.1 m hm hfname.symm⟩
    · exact (Field.given_iff.1 (hgiven f hf)).2.2

theorem Reordered.map_fst (h : Reordered fields ms ns) :
    (ms.map Prod.fst).Perm (ns.map Prod.fst) := by
  obtain ⟨ls, hperm, hls⟩ := h
  have hnames : ls.map Prod.fst = ns.map Prod.fst := by
    clear hperm
    induction hls with
    | nil => rfl
    | cons hmn _ ih => rw [List.map_cons, List.map_cons, hmn.1, ih]
  exact hnames ▸ hperm.map Prod.fst

/-- The members of one name are alike. -/
theorem forall₂_filter (hnames : (fields.map Field.name).Nodup) {f : Field} (hf : f ∈ fields)
    (h : List.Forall₂ (MemberAlike fields) ms ns) :
    List.Forall₂ (fun m n : String × Json => f.shape.Alike m.2 n.2)
      (ms.filter fun m => m.1 = f.name) (ns.filter fun n => n.1 = f.name) := by
  induction h with
  | nil => exact .nil
  | @cons m n ms ns hmn _ ih =>
    obtain ⟨hname, halike⟩ := hmn
    by_cases hm : m.1 = f.name
    · rw [List.filter_cons_of_pos (by simpa using hm),
        List.filter_cons_of_pos (by simpa [hname] using hm)]
      refine .cons ?_ ih
      rcases halike with heq | ⟨g, hg, hgname, hvalues⟩
      · exact heq ▸ f.shape.alike_self m.2
      · exact List.inj_on_of_nodup_map hnames hg hf (hgname.trans hm) ▸ hvalues
    · rw [List.filter_cons_of_neg (by simpa using hm),
        List.filter_cons_of_neg (by simpa [hname] using hm)]
      exact ih

theorem Reordered.same (hnames : (fields.map Field.name).Nodup) (h : Reordered fields ms ns) :
    ∀ f ∈ fields, f.Same ms ns := by
  obtain ⟨ls, hperm, hls⟩ := h
  intro f hf
  have hfound := forall₂_filter hnames hf hls
  rw [Field.Same, member?_perm hperm, member?, member?]
  generalize List.filter _ ls = found, List.filter _ ns = others at hfound ⊢
  rcases hfound with _ | ⟨hmn, _ | ⟨_, _⟩⟩
  · exact .some .none
  · exact .some (.some hmn)
  · exact .none

theorem record?_ofMembers (names : List String) (ms : List (String × Json)) :
    (ofMembers ms).record? names = if isClosed names ms then some ms else none := by
  rw [record?, members?_ofMembers]
  rfl

theorem isClosed_congr (names : List String) (h : (ms.map Prod.fst).Perm (ns.map Prod.fst)) :
    isClosed names ms = isClosed names ns := by
  have hall (ls : List (String × Json)) :
      isClosed names ls = (ls.map Prod.fst).all fun name => names.contains name := by
    rw [isClosed, List.all_map]
    rfl
  rw [hall, hall, h.all_eq]

/-- A reader of all fields, and of no other member. -/
theorem follows_record {body : List (String × Json) → Option α}
    (hnames : (fields.map Field.name).Nodup) (h : FollowsFields body fields) :
    Follows (fun j => do
      let ms ← j.record? (fields.map Field.name)
      body ms) (.record fields) where
  fits j := by
    show ((j.record? (fields.map Field.name)).bind body).isSome ↔
      ∃ ms, j = ofMembers ms ∧ IsRecord fields ms
    constructor
    · intro hread
      obtain ⟨a, hread⟩ := Option.isSome_iff_exists.1 hread
      obtain ⟨ms, hrecord, hbody⟩ := Option.bind_eq_some_iff.1 hread
      obtain ⟨ns, hmembers, hclosed⟩ := Option.bind_eq_some_iff.1 hrecord
      split at hclosed
      · rename_i hns
        cases hclosed
        refine ⟨ms, eq_ofMembers_of_members? hmembers, (isRecord_iff hnames).2 ⟨hns, ?_⟩⟩
        exact (h.given ms).1 (Option.isSome_of_eq_some hbody)
      · cases hclosed
    · rintro ⟨ms, rfl, hms⟩
      obtain ⟨hclosed, hgiven⟩ := (isRecord_iff hnames).1 hms
      rw [record?_ofMembers, if_pos hclosed]
      exact (h.given ms).2 hgiven
  alike := by
    rintro j k (rfl | ⟨ms, ns, rfl, rfl, hms⟩)
    · rfl
    · show ((ofMembers ms).record? _).bind body = ((ofMembers ns).record? _).bind body
      rw [record?_ofMembers, record?_ofMembers, isClosed_congr _ hms.map_fst]
      split
      · exact h.same (hms.same hnames)
      · rfl

end Records

end SqlUpdate.Json
