import SqlUpdate.Proofs.Json.Embedding
import SqlUpdate.Proofs.Json.Printing
import SqlUpdate.Proofs.Json.Shape
/-!
# The format of statement files

Every object in a file is a record, and its format is put together as its reader is. So the reader
accepts the files of the format and no others, and the order of members says nothing.

* `fileFormat` — the format of a file, and before it the formats of what is in a file.
* `follows_file` — the reader of documents reads this format, and so do those of its parts.
* `file_format` — the same for texts.
-/

namespace SqlUpdate

open Json

/-! ### Formats -/

/-- The names of types. -/
def typeNames : List String :=
  ["boolean", "smallint", "integer", "bigint", "real", "double", "decimal", "varchar", "text",
    "blob", "date", "timestamp"]

/-- The names of kinds of join. -/
def kindNames : List String := ["inner", "left", "right", "full", "cross"]

/-- The names of comparisons. -/
def comparisonNames : List String :=
  ["eq", "not_eq", "lt", "lt_eq", "gt", "gt_eq", "like", "not_like", "is_null", "is_not_null"]

/-- A text. -/
def textFormat : Shape := .atom IsText

/-- A column of a table. -/
def columnFormat : Shape :=
  .record [.must "name" textFormat, .must "type" (.atom (IsWord typeNames))]

/-- A table. -/
def tableFormat : Shape :=
  .record [.must "name" textFormat, .must "columns" (.list columnFormat)]

/-- A joined table. -/
def partFormat : Shape :=
  .record [.must "table" textFormat, .may "kind" (.atom (IsWord kindNames)),
    .may "on" (.list (.atom IsTextPair))]

/-- A join. -/
def joinFormat : Shape :=
  .record [.must "from" textFormat, .must "parts" (.list partFormat)]

/-- What is updated: an object with one member. -/
def targetFormat : Shape where
  Fits j := ∃ t, (j = ofMembers [("table", t)] ∧ IsText t) ∨
    (j = ofMembers [("join", t)] ∧ joinFormat.Fits t)
  Alike j k := j = k ∨
    ∃ t u, j = ofMembers [("join", t)] ∧ k = ofMembers [("join", u)] ∧ joinFormat.Alike t u
  alike_self _ := .inl rfl

/-- An assignment. -/
def assignmentFormat : Shape :=
  .record [.must "column" textFormat, .may "value" (.atom IsValue),
    .may "from_column" (.atom (OrNull IsText))]

/-- A condition. -/
def conditionFormat : Shape :=
  .record [.must "column" textFormat, .must "op" (.atom (IsWord comparisonNames)),
    .may "value" (.atom IsValue)]

/-- A statement file. -/
def fileFormat : Shape :=
  .record [.must "tables" (.list tableFormat), .must "target" targetFormat,
    .must "set" (.list assignmentFormat), .may "where" (.list conditionFormat),
    .may "limit" (.atom (OrNull IsNatural))]

/-! ### Words -/

/-- What is looked up by its name is found exactly under the names that there are. -/
theorem isSome_find?_iff {α : Type} (name : α → String) (all : List α) (s : String) :
    (all.find? fun a => name a = s).isSome ↔ s ∈ all.map name := by
  rw [List.find?_isSome, List.mem_map]
  simp only [decide_eq_true_eq]

theorem isSome_typeOfName?_iff (s : String) : (ColumnType.ofName? s).isSome ↔ s ∈ typeNames :=
  isSome_find?_iff ColumnType.name ColumnType.all s

theorem isSome_kindOfName?_iff (s : String) : (JoinKind.ofName? s).isSome ↔ s ∈ kindNames :=
  isSome_find?_iff JoinKind.name JoinKind.all s

theorem isSome_comparisonOfName?_iff (s : String) :
    (Comparison.ofName? s).isSome ↔ s ∈ comparisonNames := by
  rw [Comparison.ofName?.eq_def]
  split <;> simp_all [comparisonNames]

/-! ### Readers -/

theorem follows_value : Follows present? (.atom IsValue) :=
  follows_atom fun _ => present?_isSome_iff

theorem follows_column : Follows columnOfJson? columnFormat :=
  follows_record (by decide) <|
    (followsField_must "name" follows_text).bind fun _ =>
    (followsField_must "type" (follows_word isSome_typeOfName?_iff)).bind fun _ =>
    followsFields_nil _

theorem follows_table : Follows TableDeclaration.ofJson? tableFormat :=
  follows_record (by decide) <|
    (followsField_must "name" follows_text).bind fun _ =>
    (followsField_must "columns" (follows_list follows_column)).bind fun _ => followsFields_nil _

theorem follows_part : Follows PartDeclaration.ofJson? partFormat :=
  follows_record (by decide) <|
    (followsField_must "table" follows_text).bind fun _ =>
    (followsField_may "kind" _ (follows_word isSome_kindOfName?_iff)).bind fun _ =>
    (followsField_may "on" _ (follows_list follows_textPair)).bind fun _ => followsFields_nil _

theorem follows_join : Follows joinOfJson? joinFormat :=
  follows_record (by decide) <|
    (followsField_must "from" follows_text).bind fun _ =>
    (followsField_must "parts" (follows_list follows_part)).bind fun _ => followsFields_nil _

theorem follows_target : Follows TargetDeclaration.ofJson? targetFormat where
  fits j := by
    constructor
    · intro h
      obtain ⟨target, htarget⟩ := Option.isSome_iff_exists.1 h
      obtain ⟨ms, hms, hmember⟩ := Option.bind_eq_some_iff.1 htarget
      have hj := eq_ofMembers_of_members? hms
      split at hmember
      · rename_i t
        obtain ⟨s, hs, -⟩ := Option.map_eq_some_iff.1 hmember
        exact ⟨t, .inl ⟨hj, s, text?_eq_some_iff.1 hs⟩⟩
      · rename_i t
        exact ⟨t, .inr ⟨hj, (follows_join.fits t).1 (Option.isSome_of_eq_some hmember)⟩⟩
      · cases hmember
    · rintro ⟨t, ⟨rfl, s, rfl⟩ | ⟨rfl, ht⟩⟩
      · rfl
      · exact (follows_join.fits t).2 ht
  alike := by
    rintro j k (rfl | ⟨t, u, rfl, rfl, htu⟩)
    · rfl
    · exact follows_join.alike htu

theorem follows_assignment : Follows AssignmentDeclaration.ofJson? assignmentFormat :=
  follows_record (by decide) <|
    (followsField_must "column" follows_text).bind fun _ =>
    (followsField_may "value" _ follows_value).bind fun _ =>
    (followsField_may "from_column" _ (follows_nullable follows_text)).bind fun _ =>
    followsFields_nil _

theorem follows_condition : Follows ConditionDeclaration.ofJson? conditionFormat :=
  follows_record (by decide) <|
    (followsField_must "column" follows_text).bind fun _ =>
    (followsField_must "op" (follows_word isSome_comparisonOfName?_iff)).bind fun _ =>
    (followsField_may "value" _ follows_value).bind fun _ => followsFields_nil _

theorem follows_file : Follows StatementFile.ofJson? fileFormat :=
  follows_record (by decide) <|
    (followsField_must "tables" (follows_list follows_table)).bind fun _ =>
    (followsField_must "target" follows_target).bind fun _ =>
    (followsField_must "set" (follows_list follows_assignment)).bind fun _ =>
    (followsField_may "where" _ (follows_list follows_condition)).bind fun _ =>
    (followsField_may "limit" _ (follows_nullable follows_natural)).bind fun _ =>
    followsFields_nil _

/-! ### Texts -/

/-- **The format of statement files.** A text that is a document, nested no deeper than the limit,
is read as a file exactly if the document has the format of files: in all objects no required member
is missing, and none is unknown or repeated. A text whose document differs only in the order of the
members of these objects is read as the same file, or refused as well. -/
theorem file_format {s : String} {j : Json} (h : readShallow? s = some j) :
    ((StatementFile.read? s).isSome ↔ fileFormat.Fits j) ∧
    ∀ t k, readShallow? t = some k → fileFormat.Alike j k →
      StatementFile.read? t = StatementFile.read? s := by
  have hread {t : String} {k : Json} (ht : readShallow? t = some k) :
      StatementFile.read? t = StatementFile.ofJson? k := by
    rw [StatementFile.read?, ht]
    rfl
  refine ⟨?_, fun t k ht hjk => ?_⟩
  · rw [hread h]
    exact follows_file.fits j
  · rw [hread h, hread ht]
    exact (follows_file.alike hjk).symm

/-- Objects whose members are alike, but come in the opposite order, are alike. -/
theorem alike_reverse {fields : List Field} {ms ns : List (String × Json)}
    (h : List.Forall₂ (MemberAlike fields) ms ns) :
    (Shape.record fields).Alike (ofMembers ms) (ofMembers ns.reverse) :=
  .inr ⟨ms, ns.reverse, rfl, rfl, ms.reverse, ms.reverse_perm.symm, List.forall₂_reverse_iff.2 h⟩

section JoinFile

variable (arrange : List (String × Json) → List (String × Json))

/-- The only part of a join, whose members are arranged in some way. -/
def partsOfFile : Json :=
  .array [ofMembers (arrange [("table", ofString "data"), ("kind", ofString "left"),
    ("on", .array [.array [ofString "users.id", ofString "data.owner"]])])]

/-- A join with this part. -/
def joinOfFile : Json :=
  ofMembers [("from", ofString "users"), ("parts", partsOfFile arrange)]

/-- Two assignments; the members of the first one are arranged in some way. -/
def assignmentsOfFile : Json :=
  .array [ofMembers (arrange [("column", ofString "users.note"), ("value", ofString "none")]),
    ofMembers [("column", ofString "users.id"), ("from_column", ofString "data.owner")]]

/-- A file that updates a join, with members that are arranged in some way. -/
def joinFile : Json :=
  ofMembers (arrange [
    ("tables", .array [
      ofMembers [("name", ofString "users"), ("columns", .array [
        ofMembers [("name", ofString "id"), ("type", ofString "integer")],
        ofMembers [("name", ofString "note"), ("type", ofString "text")]])],
      ofMembers [("name", ofString "data"), ("columns", .array [
        ofMembers [("name", ofString "owner"), ("type", ofString "integer")]])]]),
    ("target", ofMembers [("join", joinOfFile arrange)]),
    ("set", assignmentsOfFile arrange),
    ("where", .array [ofMembers [("column", ofString "users.id"), ("op", ofString "gt"),
      ("value", ofInt 7)]]),
    ("limit", ofInt 3)])

theorem isPrintable_joinFile (h : ∀ ms, arrange ms ⊆ ms) : IsPrintable (joinFile arrange) := by
  have arranged {ms : List (String × Json)} (hms : ∀ m ∈ ms, IsPrintable m.2) :
      IsPrintable (ofMembers (arrange ms)) := .object fun m hm => hms m (h ms hm)
  -- One step for each node of the document.
  repeat' first
    | exact .text _
    | exact .number (by decide)
    | exact List.forall_mem_nil _
    | apply arranged
    | apply IsPrintable.object
    | apply IsPrintable.array
    | refine List.forall_mem_cons.2 ⟨?_, ?_⟩

theorem readShallow?_joinFile (h : ∀ ms, arrange ms ⊆ ms)
    (hdepth : (joinFile arrange).depth ≤ depthLimit) :
    readShallow? (String.ofList (joinFile arrange).compact) = some (joinFile arrange) :=
  readShallow?_compact (isPrintable_joinFile arrange h) hdepth

end JoinFile

theorem alike_joinFile : fileFormat.Alike (joinFile id) (joinFile List.reverse) := by
  have same {fields : List Field} (m : String × Json) : MemberAlike fields m m := ⟨rfl, .inl rfl⟩
  have reversed (fields : List Field) (ms : List (String × Json)) :
      (Shape.record fields).Alike (ofMembers ms) (ofMembers ms.reverse) :=
    alike_reverse (List.forall₂_same.2 fun m _ => same m)
  have hparts : (Shape.list partFormat).Alike (partsOfFile id) (partsOfFile List.reverse) :=
    .inr ⟨_, _, rfl, rfl, .cons (reversed _ _) .nil⟩
  have hjoin : joinFormat.Alike (joinOfFile id) (joinOfFile List.reverse) :=
    .inr ⟨_, _, rfl, rfl, _, .refl _,
      .cons (same _) (.cons ⟨rfl, .inr ⟨_, .tail _ (.head _), rfl, hparts⟩⟩ .nil)⟩
  have htarget : targetFormat.Alike (ofMembers [("join", joinOfFile id)])
      (ofMembers [("join", joinOfFile List.reverse)]) := .inr ⟨_, _, rfl, rfl, hjoin⟩
  have hset : (Shape.list assignmentFormat).Alike (assignmentsOfFile id)
      (assignmentsOfFile List.reverse) :=
    .inr ⟨_, _, rfl, rfl, .cons (reversed _ _) (.cons (assignmentFormat.alike_self _) .nil)⟩
  exact alike_reverse <| .cons (same _) <|
    .cons ⟨rfl, .inr ⟨_, .tail _ (.head _), rfl, htarget⟩⟩ <|
    .cons ⟨rfl, .inr ⟨_, .tail _ (.tail _ (.head _)), rfl, hset⟩⟩ <|
    .cons (same _) <| .cons (same _) .nil

/-- The members of a file, of a joined table and of an assignment may come the other way round, but
none may come twice. -/
theorem file_format_joinFile :
    fileFormat.Fits (joinFile id) ∧
    StatementFile.read? (String.ofList (joinFile List.reverse).compact)
      = StatementFile.read? (String.ofList (joinFile id).compact) ∧
    ¬ fileFormat.Fits (joinFile fun ms => ms ++ ms) := by
  have hread := readShallow?_joinFile id (fun ms => .refl ms) (by decide +kernel)
  have hreversed := readShallow?_joinFile List.reverse (fun ms => List.reverse_subset.2 (.refl ms))
    (by decide +kernel)
  have htwice := readShallow?_joinFile (fun ms => ms ++ ms)
    (fun ms => List.append_subset.2 ⟨.refl ms, .refl ms⟩) (by decide +kernel)
  refine ⟨(file_format hread).1.1 ?_, (file_format hread).2 _ _ hreversed alike_joinFile,
    fun hfits => ?_⟩
  · rw [StatementFile.read?, hread]
    decide +kernel
  · have hsome := (file_format htwice).1.2 hfits
    rw [StatementFile.read?, htwice] at hsome
    exact absurd hsome (by decide +kernel)

end SqlUpdate
