import SqlUpdate.Proofs.Binding.Filling
/-!
# Names in a text

Dialects differ in the quotes around names and in nothing else that a piece can show. Cut at its
names, a list of pieces gives segments that are the same in every dialect.

* `Expr.names`, `Update.tableNames` — the names in an expression, and in an UPDATE of a table.
* `namesOf` — the names in a list of pieces, and `namesOf_tablePieces`, that a written statement has
  exactly its own.
* `quotedBy` — a name between quotes of a kind, if it needs any.
* `textOf_eq_filled_names` — a text is its segments with the names between them, so that texts in
  dialects with the same quotes are the same (`textOf_congr_quote`).
-/

namespace SqlUpdate

/-! ### Names of statements -/

namespace Expr

mutual
/-- The names of tables and columns from left to right. -/
def names : Expr → List String
  | .column c => [c.table, c.name]
  | .argument _ | .raw _ => []
  | .binary _ e f => e.names ++ f.names
  | .not e | .isNull _ e | .paren e => e.names
  | .inList _ e items => e.names ++ namesOfItems items
  | .between _ e low high => e.names ++ low.names ++ high.names

def namesOfItems : List Expr → List String
  | [] => []
  | e :: es => e.names ++ namesOfItems es
end

end Expr

def Assignment.valueNames (a : Assignment) : List String :=
  match a.assigned with
  | .value _ => []
  | .expr e => e.names

/-- The names in an UPDATE of a table: the table, the columns with the names in their values, and
the names in the condition. -/
def Update.tableNames (u : Update) (t : Table) : List String :=
  t.name :: u.assignments.flatMap (fun a => a.column.name :: a.valueNames)
    ++ (u.filter.map Expr.names).getD []

/-! ### Names of pieces -/

def Piece.name? : Piece → Option String
  | .name s => some s
  | _ => none

def namesOf (ps : List Piece) : List String := ps.filterMap Piece.name?

@[simp] theorem namesOf_nil : namesOf [] = [] := rfl

@[simp] theorem namesOf_name (s : String) (ps : List Piece) :
    namesOf (.name s :: ps) = s :: namesOf ps := rfl

@[simp] theorem namesOf_sql (s : String) (ps : List Piece) :
    namesOf (.sql s :: ps) = namesOf ps := rfl

@[simp] theorem namesOf_append (ps qs : List Piece) :
    namesOf (ps ++ qs) = namesOf ps ++ namesOf qs :=
  List.filterMap_append

@[simp] theorem namesOf_separated (separator : String) (pss : List (List Piece)) :
    namesOf (separated separator pss) = pss.flatMap namesOf := by
  induction pss with
  | nil => rfl
  | cons ps pss ih =>
    cases pss with
    | nil => simp [separated]
    | cons qs pss => simp [separated, ih]

@[simp] theorem namesOf_parenthesizedIf (needed : Bool) (ps : List Piece) :
    namesOf (parenthesizedIf needed ps) = namesOf ps := by
  cases needed <;> simp [parenthesizedIf, parenthesized]

namespace Expr

mutual
theorem namesOf_pieces : (e : Expr) → namesOf e.pieces = e.names
  | .column _ | .argument _ | .raw _ => rfl
  | .binary _ e f => by simp [pieces, names, namesOf_pieces e, namesOf_pieces f]
  | .not e | .isNull _ e => by simp [pieces, names, namesOf_pieces e]
  | .inList _ e items => by
    simp [pieces, names, namesOf_pieces e, namesOf_itemPieces items]
  | .between _ e low high => by
    simp [pieces, names, namesOf_pieces e, namesOf_pieces low, namesOf_pieces high]
  | .paren e => by simp [pieces, names, parenthesized, namesOf_pieces e]

theorem namesOf_itemPieces :
    (es : List Expr) → (itemPieces es).flatMap namesOf = namesOfItems es
  | [] => rfl
  | e :: es => by simp [itemPieces, namesOfItems, namesOf_pieces e, namesOf_itemPieces es]
end

end Expr

theorem namesOf_valuePieces (a : Assignment) : namesOf a.valuePieces = a.valueNames := by
  obtain ⟨c, v | e⟩ := a
  · rfl
  · exact e.namesOf_pieces

theorem namesOf_wherePieces (filter : Option Expr) :
    namesOf (wherePieces filter) = (filter.map Expr.names).getD [] := by
  cases filter with
  | none => rfl
  | some e => exact e.namesOf_pieces

theorem namesOf_tablePieces (u : Update) (t : Table) :
    namesOf (tablePieces t none u.assignments u.filter) = u.tableNames t := by
  simp [tablePieces, setPieces, assignedName, List.flatMap_map, namesOf_valuePieces,
    namesOf_wherePieces, Update.tableNames]

/-! ### Texts cut at their names -/

/-- A name as it is written with quotes of a kind, which it may not need. -/
def quotedBy (quote : Char) (s : String) : String :=
  if isPlainName s then s else String.ofList (Quoted.enclosed quote s.toList)

theorem map_quotedBy_of_isPlainName (quote : Char) {names : List String}
    (h : ∀ s ∈ names, isPlainName s = true) : names.map (quotedBy quote) = names := by
  refine (List.map_congr_left fun s hs => ?_).trans (List.map_id names)
  exact if_pos (h s hs)

/-- The segments of a list of pieces: the one in front of all names, and the one behind each of
them. No dialect is needed to write them. -/
def nameSegments (r : Reading) : List Piece → String × List String
  | [] => ("", [])
  | .name _ :: ps => ("", (nameSegments r ps).1 :: (nameSegments r ps).2)
  | p :: ps => (p.text .generic r ++ (nameSegments r ps).1, (nameSegments r ps).2)

theorem length_nameSegments (r : Reading) (ps : List Piece) :
    (nameSegments r ps).2.length = (namesOf ps).length := by
  induction ps with
  | nil => rfl
  | cons p ps ih =>
    cases p with
    | name s => rw [nameSegments, namesOf_name, List.length_cons, List.length_cons, ih]
    | _ => exact ih

theorem textOf_eq_filled_names (d : Dialect) (r : Reading) (ps : List Piece) :
    textOf d r ps = filled (nameSegments r ps).1 (nameSegments r ps).2
      ((namesOf ps).map (quotedBy d.quote)) := by
  induction ps with
  | nil => rfl
  | cons p ps ih =>
    rw [textOf_cons, ih]
    cases p with
    | name s =>
      rw [nameSegments, namesOf_name, List.map_cons, filled_cons, String.empty_append]
      rfl
    | _ => exact append_filled _ _ _ _

/-- A text depends on the dialect only by the quotes. -/
theorem textOf_congr_quote {d d' : Dialect} (h : d.quote = d'.quote) (r : Reading)
    (ps : List Piece) : textOf d r ps = textOf d' r ps := by
  rw [textOf_eq_filled_names, textOf_eq_filled_names, h]

end SqlUpdate
