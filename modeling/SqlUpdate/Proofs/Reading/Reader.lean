import SqlUpdate.Proofs.Reading.Condition
import SqlUpdate.Proofs.Reading.Token
/-!
# Reading conditions

Conditions are read from left to right by the strength of their operators: `OR` binds weakest, then
`AND`, `NOT`, comparisons with `LIKE`, `IS`, `IN` and `BETWEEN`, sums and at last products.
Operators of one strength are read from the left.

* `readCondition` — reads a condition whose operators bind at least with a given strength, and gives
  back what follows it. A number bounds how deep the reading goes.
* `readOperand_mono`, `readSequels_mono` — a higher bound changes nothing.
-/

namespace SqlUpdate

/-- How strongly an operator binds. -/
def BinaryOp.strength : BinaryOp → Nat
  | or => 1
  | and => 2
  | eq | ne | lt | le | gt | ge | like | notLike => 4
  | add | sub => 5
  | mul | div => 6

/-- How strongly `NOT` binds. -/
def notStrength : Nat := 3

/-- What follows an operand. -/
inductive Sequel where
  /-- An operator. -/
  | operator (op : BinaryOp)
  /-- `IS NULL` or `IS NOT NULL`. -/
  | isNull (negated : Bool)
  /-- `IN` or `NOT IN`, and the opening parenthesis. -/
  | inList (negated : Bool)
  /-- `BETWEEN` or `NOT BETWEEN`. -/
  | between (negated : Bool)

/-- How strongly the operand is bound. -/
def Sequel.strength : Sequel → Nat
  | operator op => op.strength
  | _ => 4

/-- What follows an operand, and the tokens behind it. -/
def sequel? : List Token → Option (Sequel × List Token)
  | .op op :: ts => some (.operator op, ts)
  | .notWord :: .op .like :: ts => some (.operator .notLike, ts)
  | .isWord :: .nullWord :: ts => some (.isNull false, ts)
  | .isWord :: .notWord :: .nullWord :: ts => some (.isNull true, ts)
  | .inWord :: .opening :: ts => some (.inList false, ts)
  | .notWord :: .inWord :: .opening :: ts => some (.inList true, ts)
  | .betweenWord :: ts => some (.between false, ts)
  | .notWord :: .betweenWord :: ts => some (.between true, ts)
  | _ => none

/-- Reads a number without its sign. Infinity is written like a name, but behind no table. -/
def readUnsigned : List Token → Option (List Char × List Token)
  | .number ds :: .point :: .number es :: ts => some (ds ++ '.' :: es, ts)
  | .number ds :: ts => some (ds, ts)
  | .name cs :: ts => if cs = ['i', 'n', 'f'] then some (cs, ts) else none
  | _ => none

/-- Reads an operand of one value. -/
def readValue : List Token → Option (Condition × List Token)
  | .name table :: .point :: .name name :: ts => some (.column table name, ts)
  | .argument a :: ts => some (.argument a, ts)
  | .literal cs :: ts => some (.literal cs, ts)
  | .nullWord :: ts => some (.literal ['N', 'U', 'L', 'L'], ts)
  | .rownumWord :: ts => some (.rownum, ts)
  | .op .sub :: ts => (readUnsigned ts).map fun r => (.literal ('-' :: r.1), r.2)
  | ts => (readUnsigned ts).map fun r => (.literal r.1, r.2)

/-- The tokens behind a given one. -/
def behind (t : Token) : List Token → Option (List Token)
  | [] => none
  | u :: us => if u = t then some us else none

mutual
/-- Reads a condition of operators that bind at least with a given strength. -/
def readCondition : Nat → Nat → List Token → Option (Condition × List Token)
  | 0, _, _ => none
  | fuel + 1, strength, ts =>
    (readOperand fuel strength ts).bind fun r => readSequels fuel strength r.1 r.2

/-- Reads what stands in front of the first operator. -/
def readOperand : Nat → Nat → List Token → Option (Condition × List Token)
  | 0, _, _ => none
  | fuel + 1, strength, ts =>
    match ts with
    | .notWord :: us =>
      if strength ≤ notStrength then
        (readCondition fuel notStrength us).map fun r => (.not r.1, r.2)
      else none
    | .opening :: us =>
      (readCondition fuel 1 us).bind fun r => (behind .closing r.2).map fun vs => (r.1, vs)
    | ts => readValue ts

/-- Reads on behind an operand, as long as the operators are strong enough. -/
def readSequels : Nat → Nat → Condition → List Token → Option (Condition × List Token)
  | 0, _, _, _ => none
  | fuel + 1, strength, c, ts =>
    match sequel? ts with
    | none => some (c, ts)
    | some s =>
      if s.1.strength < strength then some (c, ts)
      else (readSequel fuel s.1 c s.2).bind fun r => readSequels fuel strength r.1 r.2

/-- Reads what an operand is followed by. -/
def readSequel : Nat → Sequel → Condition → List Token → Option (Condition × List Token)
  | 0, _, _, _ => none
  | fuel + 1, s, c, ts =>
    match s with
    | .operator op =>
      (readCondition fuel (op.strength + 1) ts).map fun r => (.apply op c r.1, r.2)
    | .isNull negated => some (.isNull negated c, ts)
    | .inList negated =>
      match behind .closing ts with
      | some us => some (.inList negated c [], us)
      | none => (readItems fuel ts).map fun r => (.inList negated c r.1, r.2)
    | .between negated =>
      -- The bounds are sums at most, so that the `AND` between them is not one of theirs.
      (readCondition fuel 5 ts).bind fun low => (behind (.op .and) low.2).bind fun us =>
        (readCondition fuel 5 us).map fun high => (.between negated c low.1 high.1, high.2)

/-- Reads the items of a list up to its closing parenthesis. -/
def readItems : Nat → List Token → Option (List Condition × List Token)
  | 0, _ => none
  | fuel + 1, ts =>
    (readCondition fuel 1 ts).bind fun r =>
      match behind .comma r.2 with
      | some us => (readItems fuel us).map fun s => (r.1 :: s.1, s.2)
      | none => (behind .closing r.2).map fun us => ([r.1], us)
end

/-! ### More fuel changes nothing -/

/-- What is read with some fuel is read with more. -/
structure Mono (fuel : Nat) : Prop where
  condition : ∀ {strength ts r}, readCondition fuel strength ts = some r →
    readCondition (fuel + 1) strength ts = some r
  operand : ∀ {strength ts r}, readOperand fuel strength ts = some r →
    readOperand (fuel + 1) strength ts = some r
  sequels : ∀ {strength c ts r}, readSequels fuel strength c ts = some r →
    readSequels (fuel + 1) strength c ts = some r
  sequel : ∀ {s c ts r}, readSequel fuel s c ts = some r → readSequel (fuel + 1) s c ts = some r
  items : ∀ {ts r}, readItems fuel ts = some r → readItems (fuel + 1) ts = some r

section Mono

variable {fuel strength : Nat} {c : Condition} {ts : List Token} {r : Condition × List Token}

theorem mono_condition (ih : Mono fuel) (h : readCondition (fuel + 1) strength ts = some r) :
    readCondition (fuel + 2) strength ts = some r := by
  rw [readCondition] at h ⊢
  obtain ⟨s, hs, hrest⟩ := Option.bind_eq_some_iff.1 h
  exact Option.bind_eq_some_iff.2 ⟨s, ih.operand hs, ih.sequels hrest⟩

theorem mono_operand (ih : Mono fuel) (h : readOperand (fuel + 1) strength ts = some r) :
    readOperand (fuel + 2) strength ts = some r := by
  rw [readOperand.eq_def] at h ⊢
  dsimp only at h ⊢
  split at h
  · split at h
    · rename_i hstrength
      obtain ⟨s, hs, rfl⟩ := Option.map_eq_some_iff.1 h
      exact (if_pos hstrength).trans (Option.map_eq_some_iff.2 ⟨s, ih.condition hs, rfl⟩)
    · cases h
  · obtain ⟨s, hs, hrest⟩ := Option.bind_eq_some_iff.1 h
    exact Option.bind_eq_some_iff.2 ⟨s, ih.condition hs, hrest⟩
  · exact h

theorem mono_sequels (ih : Mono fuel) (h : readSequels (fuel + 1) strength c ts = some r) :
    readSequels (fuel + 2) strength c ts = some r := by
  rw [readSequels] at h ⊢
  split at h
  · exact h
  · split at h
    · rename_i hweak
      exact (if_pos hweak).trans h
    · rename_i hstrong
      obtain ⟨s, hs, hrest⟩ := Option.bind_eq_some_iff.1 h
      exact (if_neg hstrong).trans
        (Option.bind_eq_some_iff.2 ⟨s, ih.sequel hs, ih.sequels hrest⟩)

theorem mono_sequel {s : Sequel} (ih : Mono fuel) (h : readSequel (fuel + 1) s c ts = some r) :
    readSequel (fuel + 2) s c ts = some r := by
  rw [readSequel.eq_def] at h ⊢
  cases s with
  | operator op =>
    obtain ⟨d, hd, rfl⟩ := Option.map_eq_some_iff.1 h
    exact Option.map_eq_some_iff.2 ⟨d, ih.condition hd, rfl⟩
  | isNull negated => exact h
  | inList negated =>
    dsimp only at h ⊢
    split at h
    · exact h
    · obtain ⟨cs, hcs, rfl⟩ := Option.map_eq_some_iff.1 h
      exact Option.map_eq_some_iff.2 ⟨cs, ih.items hcs, rfl⟩
  | between negated =>
    obtain ⟨low, hlow, hrest⟩ := Option.bind_eq_some_iff.1 h
    obtain ⟨us, hus, hrest⟩ := Option.bind_eq_some_iff.1 hrest
    obtain ⟨high, hhigh, rfl⟩ := Option.map_eq_some_iff.1 hrest
    exact Option.bind_eq_some_iff.2 ⟨low, ih.condition hlow, Option.bind_eq_some_iff.2
      ⟨us, hus, Option.map_eq_some_iff.2 ⟨high, ih.condition hhigh, rfl⟩⟩⟩

theorem mono_items {s : List Condition × List Token} (ih : Mono fuel)
    (h : readItems (fuel + 1) ts = some s) : readItems (fuel + 2) ts = some s := by
  rw [readItems] at h ⊢
  obtain ⟨d, hd, hrest⟩ := Option.bind_eq_some_iff.1 h
  refine Option.bind_eq_some_iff.2 ⟨d, ih.condition hd, ?_⟩
  split at hrest
  · obtain ⟨ds, hds, rfl⟩ := Option.map_eq_some_iff.1 hrest
    exact Option.map_eq_some_iff.2 ⟨ds, ih.items hds, rfl⟩
  · exact hrest

theorem mono (fuel : Nat) : Mono fuel := by
  induction fuel with
  | zero => exact ⟨nofun, nofun, nofun, nofun, nofun⟩
  | succ fuel ih =>
    exact ⟨mono_condition ih, mono_operand ih, mono_sequels ih, mono_sequel ih, mono_items ih⟩

end Mono

theorem readOperand_mono {fuel fuel' strength : Nat} (hle : fuel ≤ fuel') {ts : List Token}
    {r : Condition × List Token} (h : readOperand fuel strength ts = some r) :
    readOperand fuel' strength ts = some r := by
  induction hle with
  | refl => exact h
  | step _ ih => exact (mono _).operand ih

theorem readSequels_mono {fuel fuel' strength : Nat} (hle : fuel ≤ fuel') {c : Condition}
    {ts : List Token} {r : Condition × List Token} (h : readSequels fuel strength c ts = some r) :
    readSequels fuel' strength c ts = some r := by
  induction hle with
  | refl => exact h
  | step _ ih => exact (mono _).sequels ih

end SqlUpdate
