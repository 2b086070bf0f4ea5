/-!
# Double-precision numbers

A double is its 64 bits: a sign, eleven bits of exponent and 52 bits of fraction. A finite one
stands for `± significand * 2 ^ exponent`, and all arithmetic below is exact arithmetic on that
value followed by one rounding.

* `Format.nearest` — the number of a binary format nearest to a ratio, ties to the even neighbour.
* `Binary64.ofRatio` — the double nearest to a ratio, an infinity if the ratio is out of range.
* `Binary64.mulPos`, `Binary64.divPos` — product and quotient of magnitudes, rounded once.
* `Binary64.comparesEqual` — equality of numbers, which is not that of their bits.
-/

namespace SqlUpdate

/-! ### Rounding -/

/-- `num / den` rounded to a natural number; a half goes to the even neighbour. -/
def roundHalfEven (num den : Nat) : Nat :=
  let q := num / den
  let r := num % den
  if 2 * r < den then q
  else if den < 2 * r then q + 1
  else if q % 2 = 0 then q else q + 1

/-- `num / (den * 2 ^ e)` rounded, for an exponent of either sign. -/
def roundScaled (num den : Nat) : Int → Nat
  | .ofNat e => roundHalfEven num (den * Nat.pow 2 e)
  | .negSucc e => roundHalfEven (num * Nat.pow 2 (e + 1)) den

/-- A binary floating-point format. -/
structure Format where
  /-- How many bits a significand has. -/
  precision : Nat
  /-- The exponent of the smallest positive number. -/
  leastExponent : Int
  /-- The exponent of the largest number. -/
  mostExponent : Int

/-- Double precision. -/
def Format.double : Format := ⟨53, -1074, 971⟩

/-- Single precision. -/
def Format.single : Format := ⟨24, -149, 104⟩

/-- The significand and exponent of the number of the format nearest to `num / den`, as if the
exponent had no upper bound. The significand has `precision` bits unless the number is too small,
and may be the power of two just above them. -/
def Format.nearest (f : Format) (num den : Nat) : Nat × Int :=
  let e := max f.leastExponent ((num.log2 : Int) - den.log2 - (f.precision - 1))
  let whole := match e with
    | .ofNat e => num / (den * Nat.pow 2 e)
    | .negSucc e => num * Nat.pow 2 (e + 1) / den
  let e := if whole < Nat.pow 2 (f.precision - 1) then max f.leastExponent (e - 1) else e
  (roundScaled num den e, e)

/-- Whether a rounded number lies beyond the largest one of the format. -/
def Format.overflows (f : Format) (m : Nat) (e : Int) : Bool :=
  decide (f.mostExponent < e) || (decide (e = f.mostExponent) && decide (Nat.pow 2 f.precision ≤ m))

/-! ### Doubles -/

/-- A double-precision number. -/
structure Binary64 where
  /-- Sign, exponent and fraction, most significant bit first. -/
  bits : UInt64
  deriving DecidableEq, Repr, Inhabited

namespace Binary64

/-- Whether the sign bit is set. -/
def isNegative (x : Binary64) : Bool := decide (Nat.pow 2 63 ≤ x.bits.toNat)

/-- The exponent as it is stored. -/
def storedExponent (x : Binary64) : Nat := x.bits.toNat / Nat.pow 2 52 % Nat.pow 2 11

/-- The 52 bits behind the leading bit of the significand. -/
def fraction (x : Binary64) : Nat := x.bits.toNat % Nat.pow 2 52

/-- Whether the number is a number at all, and not infinite. -/
def isFinite (x : Binary64) : Bool := x.storedExponent != 2047

/-- Whether this is no number. -/
def isNaN (x : Binary64) : Bool := x.storedExponent == 2047 && x.fraction != 0

/-- Whether this is one of the two zeros. -/
def isZero (x : Binary64) : Bool := x.storedExponent == 0 && x.fraction == 0

/-- Whether two doubles compare equal. The two zeros do, and what is no number does not even
compare equal with itself. -/
def comparesEqual (x y : Binary64) : Bool :=
  !x.isNaN && !y.isNaN && (x == y || x.isZero && y.isZero)

/-- The significand of a finite number, leading bit included. -/
def significand (x : Binary64) : Nat :=
  if x.storedExponent = 0 then x.fraction else Nat.pow 2 52 + x.fraction

/-- The power of two that the significand of a finite number is multiplied by. -/
def exponent (x : Binary64) : Int := (max 1 x.storedExponent : Int) - 1075

/-- The magnitude of a finite number as a ratio of natural numbers. -/
def ratio (x : Binary64) : Nat × Nat :=
  match x.exponent with
  | .ofNat e => (x.significand * Nat.pow 2 e, 1)
  | .negSucc e => (x.significand, Nat.pow 2 (e + 1))

/-- The double with a sign and the given lower 63 bits. -/
def ofMagnitude (negative : Bool) (magnitude : Nat) : Binary64 :=
  ⟨UInt64.ofNat ((if negative then Nat.pow 2 63 else 0) + magnitude)⟩

/-- Zero, of either sign. -/
def zero (negative : Bool) : Binary64 := ofMagnitude negative 0

/-- Infinity, of either sign. -/
def infinity (negative : Bool) : Binary64 := ofMagnitude negative (2047 * Nat.pow 2 52)

/-- The value that is no number. -/
def nan : Binary64 := ofMagnitude false (2047 * Nat.pow 2 52 + Nat.pow 2 51)

/-- The double nearest to `± num / den`, for a positive `den`. -/
def ofRatio (negative : Bool) (num den : Nat) : Binary64 :=
  if num = 0 then zero negative
  else
    let (m, e) := Format.double.nearest num den
    if Format.double.overflows m e then infinity negative
    else ofMagnitude negative ((e + 1074).toNat * Nat.pow 2 52 + m)

/-- The double nearest to the single-precision number nearest to `± num / den`. -/
def ofRatioSingle (negative : Bool) (num den : Nat) : Binary64 :=
  if num = 0 then zero negative
  else
    let (m, e) := Format.single.nearest num den
    if Format.single.overflows m e then infinity negative
    else match e with
      | .ofNat e => ofRatio negative (m * Nat.pow 2 e) 1
      | .negSucc e => ofRatio negative m (Nat.pow 2 (e + 1))

/-- The double nearest to a natural number. -/
def ofNat (n : Nat) : Binary64 := ofRatio false n 1

/-- The same magnitude with the sign bit set or not. -/
def withSign (negative : Bool) (x : Binary64) : Binary64 :=
  ofMagnitude negative (x.bits.toNat % Nat.pow 2 63)

/-- The product of two finite magnitudes, rounded. -/
def mulPos (x y : Binary64) : Binary64 :=
  ofRatio false (x.ratio.1 * y.ratio.1) (x.ratio.2 * y.ratio.2)

/-- The quotient of two finite magnitudes, rounded, for a divisor other than zero. -/
def divPos (x y : Binary64) : Binary64 :=
  ofRatio false (x.ratio.1 * y.ratio.2) (x.ratio.2 * y.ratio.1)

end Binary64

end SqlUpdate
