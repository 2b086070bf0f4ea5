import SqlUpdate.Proofs.Json.Extent
import SqlUpdate.StatementFile.Json
/-!
# Documents that can be read as any value

A document embeds others by their texts, and those may embed further ones. The bound on how deeply
they do so is never met, because a text is longer than every text inside it.

* `expandWith?_congr` — only the texts in a document matter; they are no longer than its strings.
* `expandUpTo?_eq`, `expand?_eq` — the bound changes nothing, so documents are expanded as if there
  were none.
* `IsValue` — what a document is like that has a canonical form once it is expanded.
* `present?_isSome_iff` — these are the documents that are read as any value.
-/

namespace SqlUpdate.Json

/-! ### The bound -/

/-- The text of an embedded document is the value of the only member. -/
theorem embeddedText?_eq_some_iff {members : List (Text × Json)} {s : String} :
    embeddedText? members = some s ↔ ∃ name, members = [(name, .ofString s)] := by
  constructor
  · intro h
    match members with
    | [(name, .string (some t))] =>
      cases h
      exact ⟨name, rfl⟩
    | [(_, .string none)] => cases h
  · rintro ⟨name, rfl⟩
    rfl

mutual
/-- Expanding a document reads no text longer than the strings of the document. -/
theorem expandWith?_congr {read read' : String → Option Json} :
    ∀ j : Json, (∀ s : String, s.length ≤ j.characters → read s = read' s) →
      expandWith? read j = expandWith? read' j
  | .null, _ | .bool _, _ | .number _, _ | .string _, _ => rfl
  | .array items, h => by
    rw [expandWith?, expandWith?, expandItems?_congr items h]
  | .object members, h => by
    rw [expandWith?, expandWith?, expandMembers?_congr members h]
    split
    · refine Option.bind_congr fun s hs => h s ?_
      obtain ⟨name, rfl⟩ := embeddedText?_eq_some_iff.1 hs
      exact Nat.le_refl _
    · rfl

theorem expandItems?_congr {read read' : String → Option Json} :
    ∀ items : List Json, (∀ s : String, s.length ≤ charactersOfItems items → read s = read' s) →
      expandItems? read items = expandItems? read' items
  | [], _ => rfl
  | j :: js, h => by
    rw [charactersOfItems] at h
    rw [expandItems?, expandItems?, expandWith?_congr j fun s hs => h s (by omega),
      expandItems?_congr js fun s hs => h s (by omega)]

theorem expandMembers?_congr {read read' : String → Option Json} :
    ∀ members : List (Text × Json),
      (∀ s : String, s.length ≤ charactersOfMembers members → read s = read' s) →
      expandMembers? read members = expandMembers? read' members
  | [], _ => rfl
  | (name, j) :: ms, h => by
    rw [charactersOfMembers] at h
    rw [expandMembers?, expandMembers?, expandWith?_congr j fun s hs => h s (by omega),
      expandMembers?_congr ms fun s hs => h s (by omega)]
end

/-- A document that is read from a text has fewer characters than the text. -/
theorem characters_lt_of_readShallow? {s : String} {j : Json} (h : readShallow? s = some j) :
    j.characters < s.length := by
  obtain ⟨k, hk, h⟩ := Option.bind_eq_some_iff.1 h
  split at h <;> cases h
  exact characters_lt_of_read? hk

/-- How a text is read where so many documents may be nested inside each other. -/
def readUpTo? : Nat → String → Option Json
  | 0, _ => none
  | n + 1, s => (readShallow? s).bind (expandUpTo? n)

theorem expandUpTo?_eq_expandWith? (n : Nat) (j : Json) :
    expandUpTo? n j = expandWith? (readUpTo? n) j := by
  cases n <;> rfl

/-- Two bounds that a text is no longer than make no difference. -/
theorem readUpTo?_eq {m n : Nat} {s : String} (hm : s.length ≤ m) (hn : s.length ≤ n) :
    readUpTo? m s = readUpTo? n s := by
  induction m generalizing n s with
  | zero =>
    cases n with
    | zero => rfl
    | succ n =>
      cases hread : readShallow? s with
      | none => rw [readUpTo?, readUpTo?, hread]; rfl
      | some j => exact absurd (characters_lt_of_readShallow? hread) (by omega)
  | succ m ih =>
    cases hread : readShallow? s with
    | none => cases n <;> simp [readUpTo?, hread]
    | some j =>
      have hshort := characters_lt_of_readShallow? hread
      cases n with
      | zero => omega
      | succ n =>
        rw [readUpTo?, readUpTo?, hread]
        show expandUpTo? m j = expandUpTo? n j
        rw [expandUpTo?_eq_expandWith?, expandUpTo?_eq_expandWith?]
        exact expandWith?_congr _ fun t ht => ih (by omega) (by omega)

/-- A bound that the strings of a document do not exceed changes nothing. -/
theorem expandUpTo?_eq {n : Nat} {j : Json} (h : j.characters ≤ n) :
    expandUpTo? n j = expand? j := by
  rw [expand?, expandUpTo?_eq_expandWith?, expandUpTo?_eq_expandWith?]
  exact expandWith?_congr _ fun s hs => readUpTo?_eq (Nat.le_trans hs h) hs

/-- How the text of an embedded document is read: with all that it embeds in turn. -/
def readEmbedded? (s : String) : Option Json := (readShallow? s).bind expand?

/-- **Documents are expanded as if there were no bound.** -/
theorem expand?_eq (j : Json) : expand? j = expandWith? readEmbedded? j := by
  rw [expand?, expandUpTo?_eq_expandWith?]
  refine expandWith?_congr _ fun s hs => ?_
  rw [readUpTo?_eq hs (n := j.characters + 1) (by omega), readUpTo?]
  refine Option.bind_congr fun k hk => expandUpTo?_eq ?_
  have := characters_lt_of_readShallow? hk
  omega

/-! ### Values -/

/-- What a document is like that can be any value. Its numbers are doubles, and its strings and
names are texts. Nothing else is asked of it, unless the first name of an object is reserved: that
object embeds such a document by its text. -/
inductive IsValue : Json → Prop
  | null : IsValue .null
  | bool (b : Bool) : IsValue (.bool b)
  | number {n : Numeral} (h : (numberOf? n).isSome) : IsValue (.number n)
  | text (s : String) : IsValue (.ofString s)
  | array {items : List Json} (h : ∀ j ∈ items, IsValue j) : IsValue (.array items)
  | object {members : List (Text × Json)} (hmark : marksEmbedded members = false)
      (hnames : ∀ m ∈ members, m.1.isSome) (hvalues : ∀ m ∈ members, IsValue m.2) :
      IsValue (.object members)
  | embedded {s : String} {j : Json} (hread : readShallow? s = some j) (h : IsValue j) :
      IsValue (.object [(some embeddedName, .ofString s)])

/-- The document has a canonical form once it is expanded. -/
def Kept (j : Json) : Prop := ((expand? j).bind canonical?).isSome

theorem kept_null : Kept .null := rfl

theorem kept_bool (b : Bool) : Kept (.bool b) := rfl

theorem kept_number_iff {n : Numeral} : Kept (.number n) ↔ (numberOf? n).isSome := by
  simp [Kept, expand?_eq, expandWith?, canonical?]

theorem kept_string_iff {s : Text} : Kept (.string s) ↔ s.isSome := by
  simp [Kept, expand?_eq, expandWith?, canonical?]

theorem kept_array_iff {items : List Json} : Kept (.array items) ↔ ∀ j ∈ items, Kept j := by
  have hitems : ((expandItems? readEmbedded? items).bind canonicalItems?).isSome ↔
      ∀ j ∈ items, Kept j := by
    induction items with
    | nil => simp [expandItems?, canonicalItems?]
    | cons j js ih =>
      rw [List.forall_mem_cons, ← ih, expandItems?, Kept, expand?_eq]
      cases expandWith? readEmbedded? j with
      | none => simp
      | some k =>
        cases expandItems? readEmbedded? js with
        | none => simp
        | some ks => cases hk : k.canonical? <;> cases hks : canonicalItems? ks <;>
            simp [canonicalItems?, hk, hks]
  rw [← hitems, Kept, expand?_eq, expandWith?]
  cases expandItems? readEmbedded? items <;> simp [canonical?]

theorem kept_object_iff {members : List (Text × Json)} (h : marksEmbedded members = false) :
    Kept (.object members) ↔ ∀ m ∈ members, m.1.isSome ∧ Kept m.2 := by
  have hmembers : ((expandMembers? readEmbedded? members).bind canonicalMembers?).isSome ↔
      ∀ m ∈ members, m.1.isSome ∧ Kept m.2 := by
    clear h
    induction members with
    | nil => simp [expandMembers?, canonicalMembers?]
    | cons m ms ih =>
      obtain ⟨name, j⟩ := m
      rw [List.forall_mem_cons, ← ih, expandMembers?, Kept, expand?_eq]
      cases expandWith? readEmbedded? j with
      | none => simp
      | some k =>
        cases expandMembers? readEmbedded? ms with
        | none => simp
        | some ks => cases name <;> cases hk : k.canonical? <;> cases hks : canonicalMembers? ks <;>
            simp [canonicalMembers?, hk, hks]
  rw [← hmembers, Kept, expand?_eq, expandWith?, h]
  cases expandMembers? readEmbedded? members <;> simp [canonical?]

theorem kept_embedded_iff {members : List (Text × Json)} (h : marksEmbedded members = true) :
    Kept (.object members) ↔
      ∃ s j, members = [(some embeddedName, .ofString s)] ∧ readShallow? s = some j ∧ Kept j := by
  have hkept : Kept (.object members) ↔
      ∃ s, embeddedText? members = some s ∧ ∃ j, readShallow? s = some j ∧ Kept j := by
    simp only [Kept, expand?_eq (.object members), expandWith?, h, if_true, readEmbedded?,
      Option.isSome_iff_exists, Option.bind_eq_some_iff]
    grind
  rw [hkept]
  constructor
  · rintro ⟨s, hs, j, hread, hj⟩
    obtain ⟨name, rfl⟩ := embeddedText?_eq_some_iff.1 hs
    obtain rfl : name = some embeddedName := of_decide_eq_true h
    exact ⟨s, j, rfl, hread, hj⟩
  · rintro ⟨s, j, rfl, hread, hj⟩
    exact ⟨s, rfl, j, hread, hj⟩

theorem kept_of_isValue {j : Json} (h : IsValue j) : Kept j := by
  induction h with
  | null => exact kept_null
  | bool b => exact kept_bool b
  | number h => exact kept_number_iff.2 h
  | text s => exact kept_string_iff.2 rfl
  | array _ ih => exact kept_array_iff.2 ih
  | object hmark hnames _ ih => exact (kept_object_iff hmark).2 fun m hm => ⟨hnames m hm, ih m hm⟩
  | embedded hread _ ih => exact (kept_embedded_iff rfl).2 ⟨_, _, rfl, hread, ih⟩

/-- By recursion on the characters of the document, and then on the document: an embedded one has
fewer characters, and a part of a document no more. -/
theorem isValue_of_kept (j : Json) (h : Kept j) : IsValue j := by
  match j, h with
  | .null, _ => exact .null
  | .bool b, _ => exact .bool b
  | .number n, h => exact .number (kept_number_iff.1 h)
  | .string (some s), _ => exact .text s
  | .string none, h => exact absurd (kept_string_iff.1 h) nofun
  | .array items, h => exact .array fun k hk => isValue_of_kept k (kept_array_iff.1 h k hk)
  | .object members, h =>
    cases hmark : marksEmbedded members with
    | false =>
      have hmembers := (kept_object_iff hmark).1 h
      exact .object hmark (fun m hm => (hmembers m hm).1) fun m hm =>
        isValue_of_kept m.2 (hmembers m hm).2
    | true =>
      obtain ⟨s, k, hs, hread, hk⟩ := (kept_embedded_iff hmark).1 h
      subst hs
      exact .embedded hread (isValue_of_kept k hk)
termination_by (j.characters, sizeOf j)
decreasing_by
  · have hsize := List.sizeOf_lt_of_mem hk
    exact Prod.Lex.right' _ (characters_le_of_mem_items hk)
      (by simp only [array.sizeOf_spec]; omega)
  · have hsize := List.sizeOf_lt_of_mem hm
    have hvalue : sizeOf m.2 < sizeOf m := by
      obtain ⟨name, j⟩ := m
      simp only [Prod.mk.sizeOf_spec]
      omega
    exact Prod.Lex.right' _ (characters_le_of_mem_members hm)
      (by simp only [object.sizeOf_spec]; omega)
  · subst hs
    exact Prod.Lex.left _ _ (characters_lt_of_readShallow? hread)

/-- **What can be any value.** A document is read as a value exactly if its numbers are doubles, its
strings and names are texts, and what it embeds are texts of such documents. -/
theorem present?_isSome_iff {j : Json} : (present? j).isSome ↔ IsValue j := by
  have hkept : (present? j).isSome ↔ Kept j := by
    rw [present?, Kept]
    cases j.expand? with
    | none => rfl
    | some k => cases h : k.canonical? <;> simp [h]
  exact hkept.trans ⟨isValue_of_kept j, kept_of_isValue⟩

end SqlUpdate.Json
