import SqlUpdate.Value.Literal
/-!
# The characters of literals

Texts and bytes stand between quotes. All other literals are a word or an unsigned number, with at
most one minus sign in front.

* `IsUnsigned` — digits, perhaps with a point and more digits behind it, or the name of infinity.
* `floatNumeral_isSigned` — doubles are written as such a number behind an optional sign.
* `Value.BareLiteral`, `Value.bareLiteral_of_not_quoted` — the literals that have no quotes.
-/

namespace SqlUpdate

/-- A run of digits. -/
structure IsDigits (cs : List Char) : Prop where
  /-- There is one at least. -/
  ne_nil : cs ≠ []
  /-- There is nothing else. -/
  isDigit : ∀ c ∈ cs, c.isDigit = true

/-- An unsigned number as it is written. -/
inductive IsUnsigned : List Char → Prop where
  /-- A whole number. -/
  | whole {ds : List Char} : IsDigits ds → IsUnsigned ds
  /-- A number with a fraction. -/
  | decimal {ds es : List Char} : IsDigits ds → IsDigits es → IsUnsigned (ds ++ '.' :: es)
  /-- Infinity. -/
  | infinity : IsUnsigned ['i', 'n', 'f']

/-- A number behind its sign. -/
def signed (negative : Bool) (cs : List Char) : List Char := if negative then '-' :: cs else cs

/-- The digits of a natural number. -/
theorem isDigits_digits (n : Nat) : IsDigits (Decimal.digits n) :=
  ⟨Nat.toDigits_ne_nil, fun _ => Decimal.isDigit_of_mem_digits⟩

/-- A whole number is unsigned behind an optional sign. -/
theorem toList_integer (i : Int) :
    ∃ negative cs, (Decimal.integer i).toList = signed negative cs ∧ IsUnsigned cs := by
  cases i with
  | ofNat n =>
    exact ⟨false, Decimal.digits n, String.toList_ofList, .whole (isDigits_digits n)⟩
  | negSucc n =>
    refine ⟨true, Decimal.digits (n + 1), ?_, .whole (isDigits_digits (n + 1))⟩
    simp [Decimal.integer, Decimal.natural, signed]

/-! ### Doubles -/

/-- The whole part and the fraction of a decimal that is written without an exponent. -/
theorem plain_digits (style : FloatStyle) (negative : Bool) (d : Scientific) :
    IsDigits (style.plain negative d).whole ∧
      (∀ x ∈ (style.plain negative d).fraction, x.isDigit = true) ∧
      (style.plain negative d).exponent = none := by
  have hds : ∀ x ∈ Decimal.digits d.digits, x.isDigit = true :=
    fun _ => Decimal.isDigit_of_mem_digits
  have hzeros (k : Nat) : ∀ x ∈ List.replicate k '0', x.isDigit = true := by
    intro x hx
    rw [List.eq_of_mem_replicate hx]
    rfl
  have hboth {as bs : List Char} (ha : ∀ x ∈ as, x.isDigit = true)
      (hb : ∀ x ∈ bs, x.isDigit = true) : ∀ x ∈ as ++ bs, x.isDigit = true :=
    fun x hx => (List.mem_append.1 hx).elim (ha x) (hb x)
  unfold FloatStyle.plain
  split
  · refine ⟨⟨?_, ?_⟩, ?_, rfl⟩
    · show (if d.digits = 0 then ['0'] else _) ≠ []
      split
      · exact List.cons_ne_nil _ _
      · exact fun h => Nat.toDigits_ne_nil (List.append_eq_nil_iff.1 h).1
    · show ∀ x ∈ (if d.digits = 0 then ['0'] else _), _
      split
      · exact hzeros 1
      · exact hboth hds (hzeros _)
    · show ∀ x ∈ (if style.pointZero then ['0'] else []), _
      split
      · exact hzeros 1
      · exact nofun
  · dsimp only
    split
    · exact ⟨⟨List.cons_ne_nil _ _, hzeros 1⟩, hboth (hzeros _) hds, rfl⟩
    · rename_i hlen
      refine ⟨⟨?_, fun x hx => hds x (List.mem_of_mem_take hx)⟩,
        fun x hx => hds x (List.mem_of_mem_drop hx), rfl⟩
      show (Decimal.digits d.digits).take _ ≠ []
      rw [Ne, List.take_eq_nil_iff]
      rintro (h | h)
      · omega
      · exact Nat.toDigits_ne_nil h

/-- A numeral without an exponent is unsigned behind an optional sign. -/
theorem text_isSigned {n : Numeral} (hw : IsDigits n.whole)
    (hf : ∀ x ∈ n.fraction, x.isDigit = true) (he : n.exponent = none) :
    ∃ cs, n.text = signed n.negative cs ∧ IsUnsigned cs := by
  refine ⟨n.whole ++ Numeral.fractionText n.fraction, ?_, ?_⟩
  · rw [Numeral.text, he]
    cases n.negative <;> simp [signed, Numeral.exponentText]
  · cases h : n.fraction with
    | nil =>
      rw [Numeral.fractionText, List.append_nil]
      exact .whole hw
    | cons c ds =>
      rw [h] at hf
      exact .decimal hw ⟨List.cons_ne_nil c ds, hf⟩

/-- The literal of a double that is a number. -/
theorem floatNumeral_isSigned (x : Binary64) :
    ∃ negative cs, (Value.floatStyle.numeral x).text = signed negative cs ∧ IsUnsigned cs := by
  have hplain (d : Scientific) (negative : Bool) :
      ∃ negative' cs, (Value.floatStyle.plain negative d).text = signed negative' cs ∧
        IsUnsigned cs := by
    obtain ⟨hw, hf, he⟩ := plain_digits Value.floatStyle negative d
    exact ⟨_, text_isSigned hw hf he⟩
  unfold FloatStyle.numeral
  split
  · exact hplain _ _
  · exact hplain _ _

/-! ### Values -/

namespace Value

/-- Whether the literal of a value stands between quotes. -/
def isQuoted : Value → Bool
  | .text _ | .blob _ => true
  | _ => false

/-- A literal without quotes. -/
inductive BareLiteral : List Char → Prop where
  /-- The absence of a value. -/
  | null : BareLiteral ['N', 'U', 'L', 'L']
  | true : BareLiteral ['T', 'R', 'U', 'E']
  | false : BareLiteral ['F', 'A', 'L', 'S', 'E']
  /-- The double that is no number. -/
  | nan : BareLiteral ['N', 'a', 'N']
  /-- A number. -/
  | number (negative : Bool) {cs : List Char} : IsUnsigned cs → BareLiteral (signed negative cs)

theorem floatLiteral_bare (x : Binary64) : BareLiteral (floatLiteral x) := by
  unfold floatLiteral
  split
  · exact .nan
  · split
    · obtain ⟨negative, cs, htext, hcs⟩ := floatNumeral_isSigned x
      rw [htext]
      exact .number negative hcs
    · split
      · exact .number Bool.true .infinity
      · exact .number Bool.false .infinity

/-- Every literal without quotes is a word or a number with an optional sign. -/
theorem bareLiteral_of_not_quoted {v : Value} (h : v.isQuoted = Bool.false) :
    BareLiteral v.literal.toList := by
  cases v with
  | null => exact .null
  | bool b =>
    cases b
    · exact .false
    · exact .true
  | int i =>
    obtain ⟨negative, cs, htext, hcs⟩ := toList_integer i.toInt
    rw [literal, htext]
    exact .number negative hcs
  | float x =>
    rw [literal, String.toList_ofList]
    exact floatLiteral_bare x
  | text s => cases h
  | blob bytes => cases h

end Value

end SqlUpdate
