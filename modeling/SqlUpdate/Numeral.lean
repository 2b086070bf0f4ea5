import SqlUpdate.Decimal
/-!
# Decimal numerals as they are written

A numeral keeps the digits of a written number apart from its value: `-1.50e+7` has the whole part
`1`, the fraction `50` and the exponent `7`.

* `Numeral` — sign, whole part, fraction and exponent, each as its digits.
* `Numeral.text` — the numeral written out; an exponent always carries its sign.
* `Numeral.Scan` — a numeral of which only the first characters are known; `Scan.step?` takes the
  next one and `Scan.done?` says whether what was taken is a whole numeral.
* `Numeral.read?` — a text that is one numeral and nothing else.
-/

namespace SqlUpdate

/-- A decimal numeral as it is written. -/
structure Numeral where
  /-- Whether a minus sign stands in front. -/
  negative : Bool
  /-- The digits before the point. -/
  whole : List Char
  /-- The digits behind the point; none if there is no point. -/
  fraction : List Char
  /-- The sign and the digits of the exponent, if there is one. -/
  exponent : Option (Bool × List Char)
  deriving DecidableEq, Repr, Inhabited

namespace Numeral

/-- The numeral of a whole number. -/
def ofInt : Int → Numeral
  | .ofNat n => ⟨false, Decimal.digits n, [], none⟩
  | .negSucc n => ⟨true, Decimal.digits (n + 1), [], none⟩

/-- The part of a numeral from the point on. -/
def fractionText : List Char → List Char
  | [] => []
  | ds => '.' :: ds

/-- The part of a numeral from the exponent mark on. -/
def exponentText : Option (Bool × List Char) → List Char
  | none => []
  | some (negative, ds) => 'e' :: (if negative then '-' else '+') :: ds

/-- The numeral written out. -/
def text (n : Numeral) : List Char :=
  (if n.negative then ['-'] else []) ++ n.whole ++ fractionText n.fraction
    ++ exponentText n.exponent

/-! ### Reading, one character at a time -/

/-- How far into a numeral a reader has come. -/
inductive Stage where
  /-- Behind the minus sign: a digit must follow. -/
  | sign
  /-- Behind a leading zero, which no digit may follow. -/
  | zero
  /-- In the whole part. -/
  | whole
  /-- Behind the point: a digit must follow. -/
  | point
  /-- In the fraction. -/
  | fraction
  /-- Behind the exponent mark: a sign or a digit must follow. -/
  | mark
  /-- Behind the sign of the exponent: a digit must follow. -/
  | markSign
  /-- In the exponent. -/
  | exponent
  deriving DecidableEq, Repr

/-- A numeral of which the first characters have been read. -/
structure Scan where
  /-- What was read so far. -/
  numeral : Numeral
  /-- Where the reader stands in it. -/
  stage : Stage
  deriving DecidableEq, Repr

/-- The numeral that starts with a character, if one can. -/
def Scan.start? (c : Char) : Option Scan :=
  if c = '-' then some ⟨⟨true, [], [], none⟩, .sign⟩
  else if c = '0' then some ⟨⟨false, [c], [], none⟩, .zero⟩
  else if c.isDigit then some ⟨⟨false, [c], [], none⟩, .whole⟩
  else none

/-- The numeral with one more digit in its whole part. -/
def pushWhole (n : Numeral) (c : Char) : Numeral := { n with whole := n.whole ++ [c] }

/-- The numeral with one more digit in its fraction. -/
def pushFraction (n : Numeral) (c : Char) : Numeral := { n with fraction := n.fraction ++ [c] }

/-- The numeral with an exponent that has no digits yet. -/
def openExponent (n : Numeral) (negative : Bool) : Numeral :=
  { n with exponent := some (negative, []) }

/-- The numeral with one more digit in its exponent. -/
def pushExponent (n : Numeral) (c : Char) : Numeral :=
  { n with exponent := n.exponent.map fun e => (e.1, e.2 ++ [c]) }

/-- What may follow a whole part or a fraction that could end here: an exponent mark. -/
def Scan.mark? (n : Numeral) (c : Char) : Option Scan :=
  if c = 'e' ∨ c = 'E' then some ⟨n.openExponent false, .mark⟩ else none

/-- The numeral with one more character, if that character continues it. -/
def Scan.step? (s : Scan) (c : Char) : Option Scan :=
  let n := s.numeral
  match s.stage with
  | .sign =>
    if c = '0' then some ⟨n.pushWhole c, .zero⟩
    else if c.isDigit then some ⟨n.pushWhole c, .whole⟩
    else none
  | .zero => if c = '.' then some ⟨n, .point⟩ else Scan.mark? n c
  | .whole =>
    if c.isDigit then some ⟨n.pushWhole c, .whole⟩
    else if c = '.' then some ⟨n, .point⟩
    else Scan.mark? n c
  | .point => if c.isDigit then some ⟨n.pushFraction c, .fraction⟩ else none
  | .fraction => if c.isDigit then some ⟨n.pushFraction c, .fraction⟩ else Scan.mark? n c
  | .mark =>
    if c = '+' then some ⟨n, .markSign⟩
    else if c = '-' then some ⟨n.openExponent true, .markSign⟩
    else if c.isDigit then some ⟨n.pushExponent c, .exponent⟩
    else none
  | .markSign | .exponent => if c.isDigit then some ⟨n.pushExponent c, .exponent⟩ else none

/-- The numeral that was read, if it can end where the reader stands. -/
def Scan.done? (s : Scan) : Option Numeral :=
  match s.stage with
  | .zero | .whole | .fraction | .exponent => some s.numeral
  | .sign | .point | .mark | .markSign => none

/-- Reads a text that is one numeral: no leading zeros, no leading plus sign, and digits on both
sides of a point. -/
def read? : List Char → Option Numeral
  | [] => none
  | c :: cs => do
    let s ← Scan.start? c
    let s ← cs.foldlM Scan.step? s
    s.done?

/-- The value of the exponent. -/
def scale (n : Numeral) : Int :=
  match n.exponent with
  | none => 0
  | some (negative, ds) => if negative then -(Decimal.value ds : Int) else Decimal.value ds

end Numeral

end SqlUpdate
