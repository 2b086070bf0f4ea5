import SqlUpdate.Binary64
import SqlUpdate.Numeral
/-!
# The fewest digits that read back

Many decimals round to the same double. The one written is the shortest of them, and of two
equally short ones the nearer.

* `readsBack` — whether a decimal rounds to a given double: the reals that do form an interval
  from halfway to the neighbour below to halfway to the neighbour above, which has its ends exactly
  when the significand is even.
* `shortest` — the coarsest power of ten of which a multiple reads back, and that multiple. Only
  the two multiples next to the double can be the nearest on their grid, so only they are tried.
* `FloatStyle`, `FloatStyle.numeral` — where the digits go.
-/

namespace SqlUpdate

/-- A decimal number `digits * 10 ^ exponent`. -/
structure Scientific where
  /-- The digits, as one number. -/
  digits : Nat
  /-- The power of ten of the last digit. -/
  exponent : Int
  deriving DecidableEq, Repr, Inhabited

/-- Which of two equally near decimals is written. -/
inductive Tie where
  /-- The one whose last digit is even. -/
  | toEven
  /-- The greater one. -/
  | up
  deriving DecidableEq, Repr

namespace Binary64

/-- Compares `a * 10 ^ i` with `n * 2 ^ j`. -/
def compareScaled (a : Nat) (i : Int) (n : Nat) (j : Int) : Ordering :=
  compare (a * Nat.pow 10 i.toNat * Nat.pow 2 (-j).toNat)
    (n * Nat.pow 2 j.toNat * Nat.pow 10 (-i).toNat)

/-- Whether the gap to the next double below is half the gap to the next one above. -/
def narrowBelow (x : Binary64) : Bool := x.fraction == 0 && decide (1 < x.storedExponent)

/-- Whether a decimal rounds to the magnitude of a finite, non-zero double. -/
def readsBack (x : Binary64) (d : Scientific) : Bool :=
  let low := 4 * x.significand - (if x.narrowBelow then 1 else 2)
  let high := 4 * x.significand + 2
  let ends := x.significand % 2 == 0
  let above := compareScaled d.digits d.exponent low (x.exponent - 2)
  let below := compareScaled d.digits d.exponent high (x.exponent - 2)
  (above == .gt || (ends && above == .eq)) && (below == .lt || (ends && below == .eq))

/-- The greatest multiple of `10 ^ k` that is not above the magnitude of a double. -/
def floorAt (x : Binary64) (k : Int) : Nat :=
  let (num, den) := x.ratio
  num * Nat.pow 10 (-k).toNat / (den * Nat.pow 10 k.toNat)

/-- Of a multiple of `10 ^ k` below a double and the next one above it, the nearer. -/
def nearer (tie : Tie) (x : Binary64) (low : Nat) (k : Int) : Nat :=
  let (num, den) := x.ratio
  match compare (2 * num * Nat.pow 10 (-k).toNat) ((2 * low + 1) * den * Nat.pow 10 k.toNat) with
  | .lt => low
  | .gt => low + 1
  | .eq => match tie with
    | .up => low + 1
    | .toEven => if low % 2 = 0 then low else low + 1

/-- The multiple of `10 ^ k` that reads back as a double and is nearest to it, if one does. -/
def onGrid? (tie : Tie) (x : Binary64) (k : Int) : Option Scientific :=
  let low := x.floorAt k
  match x.readsBack ⟨low, k⟩, x.readsBack ⟨low + 1, k⟩ with
  | true, true => some ⟨nearer tie x low k, k⟩
  | true, false => some ⟨low, k⟩
  | false, true => some ⟨low + 1, k⟩
  | false, false => none

/-- A power of ten above the magnitude of a double, at most a few powers too large. -/
def topGrid (x : Binary64) : Int :=
  ((x.significand.log2 : Int) + 1 + x.exponent) * 30103 / 100000 + 1

/-- The shortest decimal that reads back as a finite, non-zero double. Seventeen digits always
read back, so a grid is found among the first twenty. -/
def shortest (tie : Tie) (x : Binary64) : Scientific :=
  ((List.range 20).findSome? fun (i : Nat) => onGrid? tie x (x.topGrid - i)).getD ⟨0, 0⟩

end Binary64

/-! ### Layout -/

/-- How a finite double is written. -/
structure FloatStyle where
  /-- Which of two equally near decimals is taken. -/
  tie : Tie
  /-- Whether a number whose first digit stands for this power of ten is written without an
  exponent. -/
  isPlain : Int → Bool
  /-- Whether a whole number that is written without an exponent keeps a zero behind a point. -/
  pointZero : Bool

namespace FloatStyle

/-- A decimal written without an exponent. -/
def plain (style : FloatStyle) (negative : Bool) (d : Scientific) : Numeral :=
  let ds := Decimal.digits d.digits
  match d.exponent with
  | .ofNat k =>
    let fraction := if style.pointZero then ['0'] else []
    ⟨negative, if d.digits = 0 then ['0'] else ds ++ List.replicate k '0', fraction, none⟩
  | .negSucc k =>
    if ds.length ≤ k + 1 then
      ⟨negative, ['0'], List.replicate (k + 1 - ds.length) '0' ++ ds, none⟩
    else ⟨negative, ds.take (ds.length - (k + 1)), ds.drop (ds.length - (k + 1)), none⟩

/-- A decimal written as one digit, the others behind a point, and an exponent. -/
def scientific (negative : Bool) (d : Scientific) : Numeral :=
  let ds := Decimal.digits d.digits
  let e := d.exponent + (ds.length - 1 : Nat)
  ⟨negative, ds.take 1, ds.drop 1, some (decide (e < 0), Decimal.digits e.natAbs)⟩

/-- The numeral of a finite double. -/
def numeral (style : FloatStyle) (x : Binary64) : Numeral :=
  if x.isZero then style.plain x.isNegative ⟨0, 0⟩
  else
    let d := x.shortest style.tie
    if style.isPlain (d.exponent + ((Decimal.digits d.digits).length - 1 : Nat)) then
      style.plain x.isNegative d
    else scientific x.isNegative d

end FloatStyle

end SqlUpdate
