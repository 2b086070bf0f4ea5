import SqlUpdate.Proofs.Lexical.Identifiers
import SqlUpdate.Proofs.Reading.Token
import SqlUpdate.Value.Json
/-!
# Literals are read back

A reader of SQL takes a literal from the head of a text: one of the words for truth values and for
no value, a whole number behind an optional sign, a text between single quotes, or bytes as pairs of
hexadecimal digits.

* `bytesOfHex?`, `readWhole?`, `readLiteral?` — bytes, whole numbers and literals.
* `readLiteral?_text` and its companions — what is read of the literal of each kind of value.
* `literal_readBack` — every value but a double is read as itself.
-/

namespace SqlUpdate

/-! ### Bytes -/

/-- Bytes as pairs of hexadecimal digits. -/
def bytesOfHex? : List Char → Option (List UInt8)
  | [] => some []
  | [_] => none
  | a :: b :: cs => do
    let high ← Text.hexDigit? a
    let low ← Text.hexDigit? b
    let bytes ← bytesOfHex? cs
    some (UInt8.ofNat (16 * high + low) :: bytes)

/-- A digit of either case has the value that it was written for. -/
theorem hexDigit?_hexChar : ∀ n < 16, Text.hexDigit? (Value.hexChar n) = some n := by decide

theorem ofNat_halves (b : UInt8) : UInt8.ofNat (16 * (b.toNat / 16) + b.toNat % 16) = b := by
  rw [Nat.div_add_mod, UInt8.ofNat_toNat]

theorem bytesOfHex?_hexPairs (bytes : List UInt8) :
    bytesOfHex? (bytes.flatMap Value.hexPair) = some bytes := by
  induction bytes with
  | nil => rfl
  | cons b bytes ih =>
    have hhigh : b.toNat / 16 < 16 := Nat.div_lt_of_lt_mul b.toNat_lt
    have hlow : b.toNat % 16 < 16 := Nat.mod_lt _ (by decide)
    rw [List.flatMap_cons, Value.hexPair, List.cons_append, List.cons_append, List.nil_append,
      bytesOfHex?, hexDigit?_hexChar _ hhigh, hexDigit?_hexChar _ hlow, ih]
    exact congrArg (fun b => some (b :: bytes)) (ofNat_halves b)

/-! ### Whole numbers -/

/-- The number that the digits at the head of a text denote, and what follows them. -/
def readDigits? (cs : List Char) : Option (Nat × List Char) :=
  match cs.span Char.isDigit with
  | ([], _) => none
  | (ds, rest) => some (Decimal.value ds, rest)

/-- The whole number at the head of a text, and what follows it. -/
def readWhole? : List Char → Option (Int × List Char)
  | [] => none
  | c :: cs =>
    if c = '-' then (readDigits? cs).map fun r => (-(r.1 : Int), r.2)
    else if c = '+' then (readDigits? cs).map fun r => ((r.1 : Int), r.2)
    else (readDigits? (c :: cs)).map fun r => ((r.1 : Int), r.2)

theorem readDigits?_digits (n : Nat) {rest : List Char}
    (hrest : ∀ c ∈ rest.head?, c.isDigit = false) :
    readDigits? (Decimal.digits n ++ rest) = some (n, rest) := by
  have hspan := span_append (isDigits_digits n).isDigit hrest
  obtain ⟨c, ds, hds⟩ := List.exists_cons_of_ne_nil (isDigits_digits n).ne_nil
  have hvalue : Decimal.value (c :: ds) = n := hds ▸ Decimal.value_digits n
  rw [hds] at hspan ⊢
  rw [readDigits?, hspan]
  exact congrArg (fun n => some (n, rest)) hvalue

theorem ne_sign_of_isDigit {c : Char} (h : c.isDigit = true) : c ≠ '-' ∧ c ≠ '+' := by
  constructor
  · rintro rfl
    cases h
  · rintro rfl
    cases h

theorem readWhole?_integer (i : Int) {rest : List Char}
    (hrest : ∀ c ∈ rest.head?, c.isDigit = false) :
    readWhole? ((Decimal.integer i).toList ++ rest) = some (i, rest) := by
  cases i with
  | ofNat n =>
    have hread := readDigits?_digits n hrest
    obtain ⟨c, ds, hds⟩ := List.exists_cons_of_ne_nil (isDigits_digits n).ne_nil
    have hdigit : c.isDigit = true :=
      (isDigits_digits n).isDigit c (hds ▸ List.mem_cons_self)
    obtain ⟨hminus, hplus⟩ := ne_sign_of_isDigit hdigit
    rw [Decimal.integer, Decimal.natural, String.toList_ofList]
    rw [hds, List.cons_append] at hread ⊢
    rw [readWhole?, if_neg hminus, if_neg hplus, hread]
    rfl
  | negSucc n =>
    have hchars : (Decimal.integer (.negSucc n)).toList = '-' :: Decimal.digits (n + 1) := by
      simp [Decimal.integer, Decimal.natural]
    rw [hchars, List.cons_append, readWhole?, if_pos rfl, readDigits?_digits _ hrest]
    rfl

theorem toList_integer_cons (i : Int) : ∃ c cs, (Decimal.integer i).toList = c :: cs ∧
    (c = '-' ∨ c = '+' ∨ c.isDigit = true) := by
  cases i with
  | ofNat n =>
    obtain ⟨c, ds, hds⟩ := List.exists_cons_of_ne_nil (isDigits_digits n).ne_nil
    have hdigit : c.isDigit = true :=
      (isDigits_digits n).isDigit c (hds ▸ List.mem_cons_self)
    exact ⟨c, ds, by rw [Decimal.integer, Decimal.natural, String.toList_ofList, hds],
      .inr (.inr hdigit)⟩
  | negSucc n =>
    exact ⟨'-', Decimal.digits (n + 1), by simp [Decimal.integer, Decimal.natural], .inl rfl⟩

theorem ofInt?_toInt (i : Int64) : Value.ofInt? i.toInt = some (.int i) := by
  have hmin : Int64.minValue.toInt ≤ i.toInt := by
    rw [show Int64.minValue.toInt = -2 ^ 63 by decide]
    exact i.le_toInt
  have hmax : i.toInt ≤ Int64.maxValue.toInt := by
    rw [show Int64.maxValue.toInt = 2 ^ 63 - 1 by decide]
    exact Int.le_sub_one_of_lt i.toInt_lt
  rw [Value.ofInt?, if_pos ⟨hmin, hmax⟩, Int64.ofInt_toInt]

/-! ### Literals -/

/-- The value that a word stands for. -/
def wordValue? (word : List Char) : Option Value :=
  [("NULL", Value.null), ("TRUE", .bool true), ("FALSE", .bool false)].lookup (String.ofList word)

/-- The literal at the head of a text, and what follows it. -/
def readLiteral? : List Char → Option (Value × List Char)
  | [] => none
  | c :: cs =>
    if c = Value.singleQuote then
      (Quoted.read? c (c :: cs)).map fun r => (.text (String.ofList r.1), r.2)
    else if c = 'X' ∧ cs.head? = some Value.singleQuote then do
      let (pairs, rest) ← Quoted.read? Value.singleQuote cs
      let bytes ← bytesOfHex? pairs
      some (.blob bytes, rest)
    else if c = '-' ∨ c = '+' ∨ c.isDigit = true then do
      let (i, rest) ← readWhole? (c :: cs)
      let v ← Value.ofInt? i
      some (v, rest)
    else
      let (word, rest) := (c :: cs).span isWordChar
      (wordValue? word).map fun v => (v, rest)

/-- No literal goes on with what follows. -/
def EndsLiteral (rest : List Char) : Prop :=
  ∀ c ∈ rest.head?, c ≠ Value.singleQuote ∧ isWordChar c = false

section

variable {rest : List Char} (hrest : EndsLiteral rest)
include hrest

theorem EndsLiteral.head_ne : rest.head? ≠ some Value.singleQuote :=
  fun h => (hrest _ h).1 rfl

theorem EndsLiteral.not_digit : ∀ c ∈ rest.head?, c.isDigit = false := by
  intro c hc
  have hword := (hrest c hc).2
  rw [isWordChar, Char.isAlphanum, Bool.or_eq_false_iff, Bool.or_eq_false_iff] at hword
  exact hword.1.2

theorem readLiteral?_word (c : Char) (cs : List Char) {v : Value}
    (hchars : (c :: cs).all isWordChar = true) (hc : c ≠ 'X' ∧ c.isDigit = false)
    (hv : wordValue? (c :: cs) = some v) : readLiteral? (c :: cs ++ rest) = some (v, rest) := by
  have hword := List.all_eq_true.1 hchars
  have hspan := span_append hword fun x hx => (hrest x hx).2
  have hhead := hword c List.mem_cons_self
  have hquote : c ≠ Value.singleQuote := by
    rintro rfl
    exact absurd hhead (by decide)
  have hsign : ¬ (c = '-' ∨ c = '+' ∨ c.isDigit = true) := by
    rintro (rfl | rfl | hdigit)
    · exact absurd hhead (by decide)
    · exact absurd hhead (by decide)
    · rw [hc.2] at hdigit
      cases hdigit
  rw [List.cons_append] at hspan ⊢
  rw [readLiteral?, if_neg hquote, if_neg fun h => hc.1 h.1, if_neg hsign, hspan]
  simp [hv]

theorem readLiteral?_int (i : Int64) :
    readLiteral? ((Value.int i).literal.toList ++ rest) = some (.int i, rest) := by
  have hread := readWhole?_integer i.toInt hrest.not_digit
  obtain ⟨c, cs, hchars, hstart⟩ := toList_integer_cons i.toInt
  have hquote : c ≠ Value.singleQuote := by
    rintro rfl
    exact absurd hstart (by decide)
  have hX : c ≠ 'X' := by
    rintro rfl
    exact absurd hstart (by decide)
  rw [Value.literal]
  rw [hchars, List.cons_append] at hread ⊢
  rw [readLiteral?, if_neg hquote, if_neg fun h => hX h.1, if_pos hstart, hread]
  show (Value.ofInt? i.toInt >>= fun v => some (v, rest)) = _
  rw [ofInt?_toInt]
  rfl

theorem readLiteral?_text (s : String) :
    readLiteral? ((Value.text s).literal.toList ++ rest) = some (.text s, rest) := by
  have hread := Quoted.read?_enclosed Value.singleQuote s.toList rest hrest.head_ne
  rw [Value.literal, String.toList_ofList]
  rw [Quoted.enclosed, List.cons_append] at hread ⊢
  rw [readLiteral?, if_pos rfl, hread, Option.map_some, String.ofList_toList]

theorem readLiteral?_blob (bytes : List UInt8) :
    readLiteral? ((Value.blob bytes).literal.toList ++ rest) = some (.blob bytes, rest) := by
  have hread := Quoted.read?_enclosed Value.singleQuote (bytes.flatMap Value.hexPair) rest
    hrest.head_ne
  rw [Value.literal, String.toList_ofList, Value.blobLiteral, List.cons_append, readLiteral?,
    if_neg (by decide), if_pos ⟨rfl, rfl⟩, hread]
  show (bytesOfHex? _ >>= fun bytes => some (Value.blob bytes, rest)) = _
  rw [bytesOfHex?_hexPairs]
  rfl

end

/-- **Literals are read back.** A value that is no double is read from the head of a text that
starts with its literal, whatever whole number, text or bytes it is, if neither a single quote nor a
letter, a digit or an underscore follows; and what follows is left. -/
theorem literal_readBack {v : Value} (hv : ∀ x, v ≠ .float x) {rest : List Char}
    (hrest : EndsLiteral rest) : readLiteral? (v.literal.toList ++ rest) = some (v, rest) := by
  cases v with
  | null => exact readLiteral?_word hrest 'N' ['U', 'L', 'L'] (by decide) (by decide) rfl
  | bool b =>
    cases b with
    | true => exact readLiteral?_word hrest 'T' ['R', 'U', 'E'] (by decide) (by decide) rfl
    | false => exact readLiteral?_word hrest 'F' ['A', 'L', 'S', 'E'] (by decide) (by decide) rfl
  | int i => exact readLiteral?_int hrest i
  | float x => exact absurd rfl (hv x)
  | text s => exact readLiteral?_text hrest s
  | blob bytes => exact readLiteral?_blob hrest bytes

/-- The least whole number, a text that ends in quotes and a byte below sixteen are read back. -/
theorem literal_readBack_edges :
    readLiteral? "-9223372036854775808)".toList = some (.int Int64.minValue, [')']) ∧
    readLiteral? "'a''''', ''".toList = some (.text "a''", ", ''".toList) ∧
    readLiteral? "X'0AFF' AND".toList = some (.blob [0x0A, 0xFF], " AND".toList) := by
  have hends {c : Char} {rest : List Char}
      (hc : c ≠ Value.singleQuote ∧ isWordChar c = false) : EndsLiteral (c :: rest) := by
    intro x hx
    obtain rfl : c = x := Option.some.inj hx
    exact hc
  refine ⟨?_, ?_, ?_⟩
  · exact literal_readBack (v := .int Int64.minValue) nofun (hends (by decide))
  · exact literal_readBack (v := .text "a''") nofun (hends (by decide))
  · exact literal_readBack (v := .blob [0x0A, 0xFF]) nofun (hends (by decide))

end SqlUpdate
