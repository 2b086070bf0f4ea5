import SqlUpdate.Proofs.Reading.PieceTokens
import SqlUpdate.Proofs.Reading.Rules
/-!
# Reading the conditions of a statement

A statement holds a condition behind every `ON` and every `WHERE`. What it requires of a row is the
conjunction of all of them.

* `readClauses` — the conjuncts of all conditions of a statement.
* `readRowFilter` — the same for a text.
* `readClauses_quiet`, `readClauses_clause` — tokens without conditions, and one condition.
-/

namespace SqlUpdate

/-! ### Reading -/

namespace Token

/-- Whether a condition follows. -/
def opensCondition : Token → Bool
  | keyword cs => cs == "ON".toList || cs == "WHERE".toList
  | _ => false

/-- Whether a condition can end in front of a token. -/
def endsCondition : Token → Bool
  | keyword _ | closing => true
  | _ => false

end Token

/-- What a whole condition requires. The literal `TRUE` requires nothing. -/
def Condition.requirements : Condition → List Condition
  | literal ['T', 'R', 'U', 'E'] => []
  | c => c.conjuncts

/-- Reads a condition that must end where a clause does. -/
def readClause (ts : List Token) : Option Condition :=
  (readCondition (3 * ts.length + 1) 1 ts).bind fun r =>
    if r.2.head?.all Token.endsCondition then some r.1 else none

/-- What all conditions of a statement require, in the order in which they are written. -/
def readClauses : List Token → Option (List Condition)
  | [] => some []
  | t :: ts =>
    if t.opensCondition then
      (readClause ts).bind fun c => (readClauses ts).map (c.requirements ++ ·)
    else readClauses ts

/-- What the text of a statement requires, with the values of its placeholders. -/
def readRowFilter (quote : Char) (as : List Argument) (sql : String) : Option (List Condition) :=
  (scan quote sql.toList).bind fun ls => readClauses (bindArguments as (tokens ls))

/-- Whether a condition can end in front of the tokens. -/
def Ends (ts : List Token) : Prop := ts.head?.all Token.endsCondition = true

theorem Ends.stops {ts : List Token} (h : Ends ts) : Stops 1 ts := by
  cases ts with
  | nil => exact ⟨nofun, nofun⟩
  | cons t ts =>
    cases t with
    | keyword cs => exact ⟨nofun, nofun⟩
    | closing => exact ⟨nofun, nofun⟩
    | _ => cases h

/-- Whether no condition is opened. -/
def Quiet (ts : List Token) : Prop := ∀ t ∈ ts, t.opensCondition = false

instance (ts : List Token) : Decidable (Quiet ts) :=
  inferInstanceAs (Decidable (∀ t ∈ ts, t.opensCondition = false))

theorem readClauses_quiet {ts : List Token} (h : Quiet ts) (us : List Token) :
    readClauses (ts ++ us) = readClauses us := by
  induction ts with
  | nil => rfl
  | cons t ts ih =>
    rw [List.cons_append, readClauses, h t List.mem_cons_self]
    exact ih fun u hu => h u (List.mem_cons_of_mem _ hu)

/-- A condition behind its word is read, and then what follows it. -/
theorem readClauses_clause {t : Token} {ts us : List Token} {c : Condition}
    (ht : t.opensCondition = true) (hq : Quiet ts) (h : Reads 1 ts c) (hus : Ends us) :
    readClauses (t :: (ts ++ us)) = (readClauses us).map (c.requirements ++ ·) := by
  have hread : readCondition (3 * (ts ++ us).length + 1) 1 (ts ++ us) = some (c, us) := by
    refine h.alone hus.stops ?_
    rw [List.length_append]
    omega
  have hclause : readClause (ts ++ us) = some c := by
    rw [readClause, hread]
    exact if_pos hus
  rw [readClauses, if_pos ht, hclause, readClauses_quiet hq]
  rfl

/-- A disjunction without parentheses would take in what follows it. -/
example : readClauses [.keyword "WHERE".toList, .name ['t'], .point, .name ['a'], .isWord, .nullWord,
      .op .or, .name ['t'], .point, .name ['b'], .isWord, .nullWord, .op .and, .rownumWord, .op .le,
      .number ['3']]
    = some [.chain .or [.isNull false (.column ['t'] ['a']),
        .chain .and [.isNull false (.column ['t'] ['b']),
          .binary .le .rownum (.literal ['3'])]]] := rfl

end SqlUpdate
