/-!
# Decimal digits of whole numbers

Numbers are written with as few digits as possible and a minus sign in front of the negative ones.

* `digits` / `value_digits` — the digits of a natural number, and that they are read back as it.
* `natural`, `integer` — the same as texts, for both kinds of number.
* `natural?`, `integer?` — the readers of such texts.
-/

namespace SqlUpdate.Decimal

/-- The decimal digits of a number, most significant first and without leading zeros. -/
def digits (n : Nat) : List Char := Nat.toDigits 10 n

/-- The number that a run of decimal digits denotes; no digits denote zero. -/
def value (cs : List Char) : Nat := Nat.ofDigitChars 10 cs 0

/-- The digits of a number denote it. -/
theorem value_digits (n : Nat) : value (digits n) = n :=
  Nat.ofDigitChars_toDigits (by decide) (by decide)

/-- Digits are digits. -/
theorem isDigit_of_mem_digits {c : Char} {n : Nat} (h : c ∈ digits n) : c.isDigit = true :=
  Nat.isDigit_of_mem_toDigits (by decide) (by decide) h

/-- Two numbers with the same digits are the same. -/
theorem digits_injective {m n : Nat} (h : digits m = digits n) : m = n := by
  rw [← value_digits m, h, value_digits]

/-- A natural number as text. -/
def natural (n : Nat) : String := String.ofList (digits n)

/-- A whole number as text: a minus sign marks the negative ones. -/
def integer : Int → String
  | .ofNat n => natural n
  | .negSucc n => "-" ++ natural (n + 1)

/-- Reads a text of one or more decimal digits. -/
def natural? (s : String) : Option Nat :=
  let cs := s.toList
  if cs ≠ [] ∧ cs.all Char.isDigit then some (value cs) else none

/-- Reads decimal digits behind an optional sign. -/
def integer? (s : String) : Option Int :=
  match s.toList with
  | '+' :: cs => (natural? (String.ofList cs)).map fun n => (n : Int)
  | '-' :: cs => (natural? (String.ofList cs)).map fun n => -(n : Int)
  | cs => (natural? (String.ofList cs)).map fun n => (n : Int)

end SqlUpdate.Decimal
