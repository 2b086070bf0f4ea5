import SqlUpdate.Json.Basic
import SqlUpdate.Binary64.Shortest
/-!
# The numbers of JSON documents

* `Number`, `numberOf?` — the value of a numeral: a whole number if it is written as one and fits
  64 bits, and a double otherwise. A numeral whose magnitude no double has is refused.
* `floatStyle`, `ofBinary64` — how doubles are written.

A double is read from the leading digits of the numeral, as many as fit 64 bits. They are rounded to
a double, and that is multiplied or divided by the power of ten, rounded too. The result is not
always the double nearest to the numeral.
-/

namespace SqlUpdate.Json

/-- The value of a numeral. -/
inductive Number where
  /-- A whole number between `-2 ^ 63` and `2 ^ 64 - 1`. -/
  | int (i : Int)
  /-- A finite double. -/
  | float (x : Binary64)
  deriving DecidableEq, Repr

/-- A number of 64 bits with one more digit, if that fits. -/
def pushDigit? (m : Nat) (c : Char) : Option Nat :=
  let n := 10 * m + (c.toNat - '0'.toNat)
  if n < Nat.pow 2 64 then some n else none

/-- Appends digits to a number as long as it fits 64 bits, and gives back the ones left over. -/
def leadingDigits (m : Nat) : List Char → Nat × List Char
  | [] => (m, [])
  | c :: cs =>
    match pushDigit? m c with
    | some n => leadingDigits n cs
    | none => (m, c :: cs)

theorem leadingDigits_cons (m : Nat) (c : Char) (cs : List Char) :
    leadingDigits m (c :: cs)
      = match pushDigit? m c with
        | some n => leadingDigits n cs
        | none => (m, c :: cs) := by
  rfl

/-- The double nearest to a power of ten. -/
def powerOfTen (k : Nat) : Binary64 := Binary64.ofNat (Nat.pow 10 k)

/-- The greatest power of ten that a double has room for. -/
def greatestPower : Nat := 308

/-- A magnitude divided several times by the greatest power of ten. -/
def divideRepeatedly (x : Binary64) : Nat → Binary64
  | 0 => x
  | n + 1 => divideRepeatedly (x.divPos (powerOfTen greatestPower)) n

/-- A magnitude times a power of ten, unless that is too large. A power below the least one is
divided by in steps; after three of them a number of 64 bits is zero. -/
def timesPowerOfTen? (x : Binary64) : Int → Option Binary64
  | .ofNat k =>
    if x.isZero then some x
    else if greatestPower < k then none
    else
      let y := x.mulPos (powerOfTen k)
      if y.isFinite then some y else none
  | .negSucc k =>
    let steps := k / greatestPower
    some ((divideRepeatedly x (min steps 3)).divPos (powerOfTen (k + 1 - steps * greatestPower)))

/-- The value of a numeral. -/
def numberOf? (n : Numeral) : Option Number :=
  let (m, skipped) := leadingDigits 0 n.whole
  if n.fraction = [] ∧ n.exponent = none ∧ skipped = [] then
    if n.negative then
      if 0 < m ∧ m ≤ Nat.pow 2 63 then some (.int (-(m : Int)))
      else some (.float ((Binary64.ofNat m).withSign true))
    else some (.int m)
  else
    let (m, dropped) := leadingDigits m n.fraction
    let e := (skipped.length : Int) - (n.fraction.length - dropped.length : Nat) + n.scale
    (timesPowerOfTen? (Binary64.ofNat m) e).map fun x => .float (x.withSign n.negative)

/-- Doubles are written without an exponent from a hundred thousandth on and below ten to the
sixteenth, always with a point; of two equally near decimals the even one is taken. -/
def floatStyle : FloatStyle :=
  ⟨.toEven, fun e => decide (-5 ≤ e) && decide (e < 16), true⟩

/-- The document of a double: there is no numeral for an infinity, or for no number. -/
def ofBinary64 (x : Binary64) : Json :=
  if x.isFinite then .number (floatStyle.numeral x) else .null

/-- The document of a number. -/
def ofNumber : Number → Json
  | .int i => ofInt i
  | .float x => ofBinary64 x

/-! ### The free form of a document -/

/-- Adds a member in front of those with greater names, unless its name is there already. -/
def insertMember (name : String) (value : Json) :
    List (Text × Json) → List (Text × Json)
  | [] => [(some name, value)]
  | (s, j) :: ms =>
    let other := s.getD ""
    if name = other then (s, j) :: ms
    else if name < other then (some name, value) :: (s, j) :: ms
    else (s, j) :: insertMember name value ms

mutual
/-- The document with every number in its usual form and the members of every object sorted by
name; of members with one name the last one stays. A string that is no text and a number that is no
double are refused. -/
def canonical? : Json → Option Json
  | .null => some .null
  | .bool b => some (.bool b)
  | .number n => (numberOf? n).map ofNumber
  | .string s => s.map ofString
  | .array items => (canonicalItems? items).map .array
  | .object members => (canonicalMembers? members).map .object

/-- The items of an array, each in its canonical form. -/
def canonicalItems? : List Json → Option (List Json)
  | [] => some []
  | j :: js => do
    let k ← j.canonical?
    let ks ← canonicalItems? js
    some (k :: ks)

/-- The members of an object, sorted and each in its canonical form. -/
def canonicalMembers? : List (Text × Json) → Option (List (Text × Json))
  | [] => some []
  | (s, j) :: ms => do
    let name ← s
    let k ← j.canonical?
    let ks ← canonicalMembers? ms
    some (insertMember name k ks)
end

end SqlUpdate.Json
