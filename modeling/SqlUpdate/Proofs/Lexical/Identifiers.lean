import Mathlib.Data.List.TakeDrop
import SqlUpdate.Proofs.Statement.AssignedColumns
/-!
# Identifiers are read back

A reader of SQL takes an identifier from the head of a text: characters between quotes, where a
quote that is written twice stands for one, or a run of the characters that names are made of. Such
a run does not start with a digit.

* `span_append` — a run of characters ends where a character of another kind follows.
* `readIdentifier?` — the identifier at the head of a text, and what follows it.
* `readIdentifier?_identifier` — a name that was written is read, quoted or not.
* `identifiers_readBack` — and therefore a column that is written behind its table is no other one.
-/

namespace SqlUpdate

/-- A run of characters of one kind ends where none of them follows. -/
theorem span_append {p : Char → Bool} {cs rest : List Char} (hcs : ∀ c ∈ cs, p c = true)
    (hrest : ∀ c ∈ rest.head?, p c = false) : (cs ++ rest).span p = (cs, rest) := by
  have hstop : rest.takeWhile p = [] ∧ rest.dropWhile p = rest := by
    cases rest with
    | nil => exact ⟨rfl, rfl⟩
    | cons c rest =>
      have hc : p c = false := hrest c rfl
      simp [hc]
  rw [List.span_eq_takeWhile_dropWhile, List.takeWhile_append_of_pos hcs,
    List.dropWhile_append_of_pos hcs, hstop.1, hstop.2, List.append_nil]

/-- The identifier at the head of a text, and what follows it. -/
def readIdentifier? (quote : Char) (cs : List Char) : Option (String × List Char) :=
  if cs.head? = some quote then (Quoted.read? quote cs).map fun r => (String.ofList r.1, r.2)
  else
    match cs.span isNameChar with
    | ([], _) => none
    | (c :: word, rest) => if c.isDigit then none else some (String.ofList (c :: word), rest)

/-! ### Names that were written -/

theorem isNameChar_quote (d : Dialect) : isNameChar d.quote = false := by
  cases d <;> decide

/-- No identifier goes on with what follows. -/
def EndsIdentifier (d : Dialect) (rest : List Char) : Prop :=
  ∀ c ∈ rest.head?, c ≠ d.quote ∧ isNameChar c = false

theorem endsIdentifier_cons {d : Dialect} {c : Char} {rest : List Char} :
    EndsIdentifier d (c :: rest) ↔ c ≠ d.quote ∧ isNameChar c = false := by
  simp [EndsIdentifier]

/-- A bare name is a run of its characters. -/
theorem readIdentifier?_plain (d : Dialect) {name : String} (h : isPlainName name = true)
    {rest : List Char} (hrest : EndsIdentifier d rest) :
    readIdentifier? d.quote (name.toList ++ rest) = some (name, rest) := by
  obtain ⟨hne, hchars⟩ := isPlainName_chars h
  have hstart := isPlainName_head h
  have hspan := span_append hchars fun c hc => (hrest c hc).2
  have hname : String.ofList name.toList = name := String.ofList_toList
  obtain ⟨c, word, hword⟩ := List.exists_cons_of_ne_nil hne
  rw [hword] at hspan hstart hname hchars ⊢
  have hquote : (c :: word ++ rest).head? ≠ some d.quote := by
    intro hhead
    have hc := hchars c List.mem_cons_self
    rw [Option.some.inj hhead, isNameChar_quote] at hc
    cases hc
  have hdigit : c.isDigit = false := by
    by_contra hc
    rw [Bool.not_eq_false] at hc
    rw [List.head?_cons, Option.any_some, isNameStart_of_isDigit hc] at hstart
    cases hstart
  rw [readIdentifier?, if_neg hquote, hspan]
  simp [hdigit, hname]

/-- A quoted name ends at its closing quote. -/
theorem readIdentifier?_quoted (d : Dialect) (name : String) {rest : List Char}
    (hrest : EndsIdentifier d rest) :
    readIdentifier? d.quote ((d.quotedIdentifier name).toList ++ rest) = some (name, rest) := by
  have hnext : rest.head? ≠ some d.quote := fun hhead => (hrest d.quote hhead).1 rfl
  rw [Dialect.quotedIdentifier, String.toList_ofList, readIdentifier?,
    if_pos (by rw [Quoted.enclosed, List.cons_append, List.head?_cons]),
    Quoted.read?_enclosed _ _ _ hnext, Option.map_some, String.ofList_toList]

/-- A name that was written is read, and so much of the text is left as was behind it. -/
theorem readIdentifier?_identifier (d : Dialect) (name : String) {rest : List Char}
    (hrest : EndsIdentifier d rest) :
    readIdentifier? d.quote ((d.identifier name).toList ++ rest) = some (name, rest) := by
  rw [Dialect.identifier]
  split
  · rename_i hplain
    exact readIdentifier?_plain d hplain hrest
  · exact readIdentifier?_quoted d name hrest

/-! ### Columns behind their tables -/

/-- A column behind its table is read as two identifiers with a point between them. -/
theorem readIdentifier?_qualified (d : Dialect) (table name : String) :
    readIdentifier? d.quote (d.qualified table name).toList
      = some (table, '.' :: (d.identifier name).toList) := by
  have hpoint : EndsIdentifier d ('.' :: (d.identifier name).toList) := by
    rw [endsIdentifier_cons]
    cases d <;> decide
  have hchars : (d.qualified table name).toList
      = (d.identifier table).toList ++ '.' :: (d.identifier name).toList := by
    simp [Dialect.qualified]
  rw [hchars, readIdentifier?_identifier d table hpoint]

theorem qualified_eq_iff (d : Dialect) (c e : Column) :
    d.qualified c.table c.name = d.qualified e.table e.name ↔
      c.table = e.table ∧ c.name = e.name := by
  constructor
  · intro h
    have hc := readIdentifier?_qualified d c.table c.name
    rw [h, readIdentifier?_qualified d e.table e.name] at hc
    obtain ⟨htable, hrest⟩ := Prod.mk.inj (Option.some.inj hc)
    have hname := String.toList_inj.1 (List.cons.inj hrest).2
    exact ⟨htable.symm, (d.identifier_injective hname).symm⟩
  · rintro ⟨htable, hname⟩
    rw [htable, hname]

/-- **Identifiers are read back.** In every dialect, a name that was written at the head of a text
is read as that name, whatever characters it has, if neither a quote nor a further character of a
bare name follows; and what follows is left. So two columns are written alike behind the names of
their tables only if they have the same table and the same name. -/
theorem identifiers_readBack (d : Dialect) :
    (∀ name rest, EndsIdentifier d rest →
      readIdentifier? d.quote ((d.identifier name).toList ++ rest) = some (name, rest)) ∧
    ∀ c e : Column, d.qualified c.table c.name = d.qualified e.table e.name ↔
      c.table = e.table ∧ c.name = e.name :=
  ⟨fun name _ hrest => readIdentifier?_identifier d name hrest, qualified_eq_iff d⟩

/-- Names of a quote alone and of no character are read back, and a point inside a name is not taken
for the one behind a table. -/
theorem identifiers_readBack_hostileNames :
    readIdentifier? '"' "\"\"\"\".\"\"".toList = some ("\"", ".\"\"".toList) ∧
    readIdentifier? '\x60' "\x60a.\x60\x60\x60 ".toList = some ("a.\x60", [' ']) ∧
    Dialect.generic.qualified "a.b" "c" ≠ Dialect.generic.qualified "a" "b.c" := by
  obtain ⟨hgeneric, hcolumns⟩ := identifiers_readBack .generic
  obtain ⟨hmysql, -⟩ := identifiers_readBack .mysql
  refine ⟨hgeneric "\"" ".\"\"".toList (endsIdentifier_cons.2 (by decide)),
    hmysql "a.\x60" [' '] (endsIdentifier_cons.2 (by decide)), fun h => ?_⟩
  have hsame := (hcolumns ⟨"a.b", "c", .text⟩ ⟨"a", "b.c", .text⟩).1 h
  exact absurd hsame.1 (by decide)

end SqlUpdate
