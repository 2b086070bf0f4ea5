import Mathlib.Data.List.Chain
import SqlUpdate.Proofs.Statement.Forms
/-!
# Pieces are kept apart

Between two names, placeholders, literals or operators that stand side by side, every writer puts a
space, a comma, a point or a parenthesis. Nothing else is needed to read the pieces of a text one by
one.

* `Spaced` — lists of pieces with a character between any two of them that belongs to neither.
* `Spaced.append`, `Spaced.cons` — how such lists are put together.
* `Expr.spaced_pieces` — expressions without raw fragments are written so.
-/

namespace SqlUpdate

/-- Whether a character keeps apart what stands on its two sides. -/
def isBreak (c : Char) : Bool := c == ' ' || c == '(' || c == ')' || c == ',' || c == '.'

/-- Whether a character of a fixed text means nothing beside other characters. -/
def isCalm (c : Char) : Bool :=
  c.isAlphanum || isBreak c || ['=', '!', '<', '>', '+', '_'].contains c

/-- The operators of a character that means something else if another one stands beside it. -/
def loneOperators : List String := ["-", "*", "/"]

namespace Piece

/-- Whether a piece is no raw fragment and, if it is a fixed text, one of harmless characters. -/
def isSound : Piece → Bool
  | .sql s => !s.toList.isEmpty && (s.toList.all isCalm || loneOperators.contains s)
  | .raw _ => false
  | _ => true

/-- Whether a piece starts with a character that keeps it apart from what stands before. -/
def startsApart : Piece → Bool
  | .sql s => s.toList.head?.any isBreak
  | _ => false

/-- Whether a piece ends with a character that keeps it apart from what follows. -/
def endsApart : Piece → Bool
  | .sql s => s.toList.getLast?.any isBreak
  | _ => false

/-- Whether two pieces can stand side by side. -/
def Apart (p q : Piece) : Prop := p.endsApart = true ∨ q.startsApart = true

end Piece

/-- The pieces are sound and any two neighbours are kept apart. -/
structure Spaced (ps : List Piece) : Prop where
  /-- Neighbours are kept apart. -/
  apart : ps.IsChain Piece.Apart
  /-- Every piece is sound. -/
  sound : ∀ p ∈ ps, p.isSound = true

/-- Whether a list of pieces can follow any other. -/
def StartsApart (ps : List Piece) : Prop := ∀ p ∈ ps.head?, p.startsApart = true

namespace Spaced

theorem nil : Spaced [] := ⟨.nil, nofun⟩

theorem singleton {p : Piece} (h : p.isSound = true) : Spaced [p] :=
  ⟨.singleton p, fun _ hq => List.mem_singleton.1 hq ▸ h⟩

theorem tail {p : Piece} {ps : List Piece} (h : Spaced (p :: ps)) : Spaced ps :=
  ⟨h.apart.tail, fun q hq => h.sound q (List.mem_cons_of_mem p hq)⟩

/-- One list behind another that ends apart from it, or that it starts apart from. -/
theorem append_of {ps qs : List Piece} (hp : Spaced ps) (hq : Spaced qs)
    (h : ∀ p ∈ ps.getLast?, ∀ q ∈ qs.head?, p.Apart q) : Spaced (ps ++ qs) := by
  refine ⟨List.isChain_append.2 ⟨hp.apart, hq.apart, h⟩, fun p hmem => ?_⟩
  rcases List.mem_append.1 hmem with hmem | hmem
  · exact hp.sound p hmem
  · exact hq.sound p hmem

/-- A list behind any other, if it starts apart. -/
theorem append {ps qs : List Piece} (hp : Spaced ps) (hq : Spaced qs) (h : StartsApart qs) :
    Spaced (ps ++ qs) :=
  hp.append_of hq fun _ _ q hmem => .inr (h q hmem)

/-- A fixed text in front of any list, if it ends apart. -/
theorem cons {p : Piece} {ps : List Piece} (hs : p.isSound = true) (he : p.endsApart = true)
    (hp : Spaced ps) : Spaced (p :: ps) :=
  (singleton hs).append_of hp fun _ hmem _ _ => .inl (Option.some.inj hmem ▸ he)

/-- A piece in front of a list that starts apart. -/
theorem cons_append {p : Piece} {ps : List Piece} (hs : p.isSound = true) (hp : Spaced ps)
    (h : StartsApart ps) : Spaced (p :: ps) :=
  (singleton hs).append hp h

end Spaced

theorem startsApart_cons {p : Piece} {ps : List Piece} (h : p.startsApart = true) :
    StartsApart (p :: ps) := fun _ hq => Option.some.inj hq ▸ h

theorem startsApart_append {ps qs : List Piece} (hp : StartsApart ps) (hq : StartsApart qs) :
    StartsApart (ps ++ qs) := by
  cases ps with
  | nil => exact hq
  | cons p ps => exact hp

theorem startsApart_nil : StartsApart [] := nofun

/-! ### Separators and parentheses -/

theorem spaced_separated {separator : String} (hs : (Piece.sql separator).isSound = true)
    (hstart : (Piece.sql separator).startsApart = true)
    (hend : (Piece.sql separator).endsApart = true) {pss : List (List Piece)}
    (h : ∀ ps ∈ pss, Spaced ps) : Spaced (separated separator pss) := by
  induction pss with
  | nil => exact .nil
  | cons ps pss ih =>
    have hps : Spaced ps := h ps List.mem_cons_self
    cases pss with
    | nil => exact hps
    | cons qs pss =>
      have hrest := ih fun rs hrs => h rs (List.mem_cons_of_mem _ hrs)
      exact hps.append (.cons hs hend hrest) (startsApart_cons hstart)

theorem spaced_commas {pss : List (List Piece)} (h : ∀ ps ∈ pss, Spaced ps) :
    Spaced (separated ", " pss) := spaced_separated (by decide) (by decide) (by decide) h

theorem spaced_ands {pss : List (List Piece)} (h : ∀ ps ∈ pss, Spaced ps) :
    Spaced (separated " AND " pss) := spaced_separated (by decide) (by decide) (by decide) h

theorem spaced_parenthesized {ps : List Piece} (h : Spaced ps) : Spaced (parenthesized ps) :=
  .cons (by decide) (by decide)
    (h.append (.singleton (by decide)) (startsApart_cons (by decide)))

theorem spaced_parenthesizedIf (needed : Bool) {ps : List Piece} (h : Spaced ps) :
    Spaced (parenthesizedIf needed ps) := by
  cases needed with
  | true => exact spaced_parenthesized h
  | false => exact h

/-! ### Expressions -/

mutual
/-- Whether an expression holds no raw fragment. -/
def Expr.isRawFree : Expr → Bool
  | .column _ | .argument _ => true
  | .raw _ => false
  | .binary _ e f => e.isRawFree && f.isRawFree
  | .not e | .isNull _ e | .paren e => e.isRawFree
  | .inList _ e items => e.isRawFree && Expr.areRawFree items
  | .between _ e low high => e.isRawFree && low.isRawFree && high.isRawFree

/-- Whether the items of a list hold no raw fragment. -/
def Expr.areRawFree : List Expr → Bool
  | [] => true
  | e :: es => e.isRawFree && Expr.areRawFree es
end

theorem spaced_qualified (c : Column) : Spaced (Piece.qualified c) :=
  .cons_append rfl (.cons (by decide) (by decide) (.singleton rfl)) (startsApart_cons (by decide))

/-- An operator between spaces. -/
theorem spaced_operator (op : BinaryOp) {ps qs : List Piece} (hp : Spaced ps) (hq : Spaced qs) :
    Spaced (ps ++ [.sql " ", .sql op.sql, .sql " "] ++ qs) := by
  have hop : Spaced [.sql " ", .sql op.sql, .sql " "] := by
    refine .cons (by decide) (by decide) (.cons_append ?_ (.singleton (by decide)) ?_)
    · cases op <;> decide
    · exact startsApart_cons (by decide)
  exact (hp.append hop (startsApart_cons (by decide))).append_of hq fun p hmem _ _ => by
    have : p = .sql " " := by simpa using hmem.symm
    exact .inl (this ▸ by decide)

namespace Expr

mutual
/-- An expression without raw fragments keeps its pieces apart. -/
theorem spaced_pieces : (e : Expr) → e.isRawFree = true → Spaced e.pieces
  | .column c, _ => by
    rw [pieces]
    exact spaced_qualified c
  | .argument _, _ => by
    rw [pieces]
    exact .singleton rfl
  | .binary op e f, h => by
    rw [isRawFree, Bool.and_eq_true] at h
    rw [pieces]
    exact spaced_operator op (spaced_parenthesizedIf _ (spaced_pieces e h.1))
      (spaced_parenthesizedIf _ (spaced_pieces f h.2))
  | .not e, h => by
    rw [isRawFree] at h
    rw [pieces]
    exact .cons (by decide) (by decide) (spaced_parenthesizedIf _ (spaced_pieces e h))
  | .isNull negated e, h => by
    rw [isRawFree] at h
    rw [pieces]
    refine (spaced_pieces e h).append (.singleton ?_) (startsApart_cons ?_)
    · cases negated <;> decide
    · cases negated <;> decide
  | .inList negated e items, h => by
    rw [isRawFree, Bool.and_eq_true] at h
    rw [pieces, List.append_assoc, List.append_assoc]
    have hitems : Spaced (separated ", " (itemPieces items) ++ [.sql ")"]) :=
      (spaced_commas (spaced_itemPieces items h.2)).append (.singleton (by decide))
        (startsApart_cons (by decide))
    refine (spaced_pieces e h.1).append (.cons ?_ ?_ hitems) (startsApart_cons ?_)
    all_goals cases negated <;> decide
  | .between negated e low high, h => by
    rw [isRawFree, Bool.and_eq_true, Bool.and_eq_true] at h
    obtain ⟨⟨he, hlow⟩, hhigh⟩ := h
    rw [pieces, List.append_assoc, List.append_assoc, List.append_assoc]
    have hbounds : Spaced (low.pieces ++ ([.sql " AND "] ++ high.pieces)) :=
      (spaced_pieces low hlow).append (.cons (by decide) (by decide) (spaced_pieces high hhigh))
        (startsApart_cons (by decide))
    refine (spaced_pieces e he).append (.cons ?_ ?_ hbounds) (startsApart_cons ?_)
    all_goals cases negated <;> decide
  | .paren e, h => by
    rw [isRawFree] at h
    rw [pieces]
    exact spaced_parenthesized (spaced_pieces e h)

/-- The items of a list without raw fragments keep their pieces apart. -/
theorem spaced_itemPieces :
    (es : List Expr) → areRawFree es = true → ∀ ps ∈ itemPieces es, Spaced ps
  | [], _ => nofun
  | e :: es, h => by
    rw [areRawFree, Bool.and_eq_true] at h
    rw [itemPieces]
    intro ps hps
    rcases List.mem_cons.1 hps with rfl | hps
    · exact spaced_pieces e h.1
    · exact spaced_itemPieces es h.2 ps hps
end

end Expr

end SqlUpdate
