import SqlUpdate.Proofs.Binding.Order
/-!
# Literals stand where the placeholders stood

A statement has one list of pieces and two texts. Cut at its arguments, the list gives the segments
that both texts share.

* `filled` — segments with a text in every gap between them.
* `segments` — the segments of a list of pieces, and `textOf_eq_filled`, that both of its texts are
  these segments, filled with placeholders or with literals.
* `compile_inline_eq_filled` — the two texts of a statement.
-/

namespace SqlUpdate

/-- A first segment and the ones behind it, with a text in front of each of those. -/
def filled (first : String) (rest : List String) (gaps : List String) : String :=
  first ++ String.join (List.zipWith (fun gap segment => gap ++ segment) gaps rest)

theorem append_filled (s first : String) (rest gaps : List String) :
    s ++ filled first rest gaps = filled (s ++ first) rest gaps := by
  rw [filled, filled, String.append_assoc]

theorem filled_cons (first second gap : String) (rest gaps : List String) :
    filled first (second :: rest) (gap :: gaps) = first ++ (gap ++ filled second rest gaps) := by
  simp [filled, String.append_assoc]

/-- The segments of a list of pieces: the one in front of all arguments, and the one behind each of
them. -/
def segments (d : Dialect) : List Piece → String × List String
  | [] => ("", [])
  | .argument _ :: ps => ("", (segments d ps).1 :: (segments d ps).2)
  | p :: ps => (p.text d .prepared ++ (segments d ps).1, (segments d ps).2)

/-- What is written in place of an argument. -/
def gapText : Reading → Argument → String
  | .prepared, _ => placeholder
  | .inlined, a => a.value.literal

/-- Behind every argument there is a segment. -/
theorem length_segments (d : Dialect) (ps : List Piece) :
    (segments d ps).2.length = (argumentsOf ps).length := by
  induction ps with
  | nil => rfl
  | cons p ps ih =>
    cases p with
    | argument a => rw [argumentsOf_argument, segments, List.length_cons, List.length_cons, ih]
    | sql s => exact ih
    | name s => exact ih
    | raw s => exact ih
    | literal v => exact ih

/-- Both texts of a list of pieces are its segments with the gaps filled. -/
theorem textOf_eq_filled (d : Dialect) (r : Reading) (ps : List Piece) :
    textOf d r ps
      = filled (segments d ps).1 (segments d ps).2 ((argumentsOf ps).map (gapText r)) := by
  induction ps with
  | nil => rfl
  | cons p ps ih =>
    rw [textOf_cons, ih]
    cases p with
    | argument a =>
      rw [argumentsOf_argument, List.map_cons, segments, filled_cons, String.empty_append]
      cases r <;> rfl
    | sql s => exact append_filled _ _ _ _
    | name s => exact append_filled _ _ _ _
    | raw s => exact append_filled _ _ _ _
    | literal v => exact append_filled _ _ _ _

/-- **The two texts of a statement differ at the placeholders only.** Compiling with placeholders
and with literals fail for the same reason, or there are segments, one more than arguments, such
that the one text has a placeholder between any two of them and the other has the literal of the
argument. -/
theorem compile_inline_eq_filled (ctx : Context) (u : Update) :
    (∃ e, u.compile ctx = .error e ∧ u.inline ctx = .error e) ∨
    ∃ first rest, rest.length = (u.arguments ctx).flatten.length ∧
      u.compile ctx = .ok (filled first rest ((u.arguments ctx).flatten.map fun _ => "?")) ∧
      u.inline ctx = .ok (filled first rest
        ((u.arguments ctx).flatten.map fun a => a.value.literal)) := by
  have hflat := flatten_arguments ctx u
  cases hs : u.render ctx with
  | error e => exact .inl ⟨e, by rw [Update.compile, hs]; rfl, by rw [Update.inline, hs]; rfl⟩
  | ok s =>
    have hargs := argumentsOf_render hs
    refine .inr ⟨(segments s.dialect s.pieces).1, (segments s.dialect s.pieces).2, ?_, ?_, ?_⟩
    · rw [hflat, ← hargs, length_segments]
    · rw [hflat, ← hargs, compile_of_render hs, Rendered.text, textOf_eq_filled]
      rfl
    · rw [hflat, ← hargs, inline_of_render hs, Rendered.text, textOf_eq_filled]
      rfl

end SqlUpdate
