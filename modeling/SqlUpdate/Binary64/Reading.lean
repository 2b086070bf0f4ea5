import SqlUpdate.Binary64
import SqlUpdate.Numeral
import SqlUpdate.Text.Cut
/-!
# Doubles from decimal text

* `ofNumeral` — the double nearest to a numeral; `ofNumeralSingle` goes through single precision.
* `ofText?` — the same for a text, which may also name an infinity or the value that is no number.
  Signs and leading zeros are free, letters may be of either case.
-/

namespace SqlUpdate.Binary64

/-- Rounds `± m * 10 ^ e` by a rounding of ratios. Beyond the exponents of any double the ratio is
cut short, which changes nothing: the result is infinite or zero. -/
def ofScaled (round : Bool → Nat → Nat → Binary64) (negative : Bool) (m : Nat) (e : Int) :
    Binary64 :=
  let size := (Decimal.digits m).length
  if m = 0 then zero negative
  else if 400 < e + size then infinity negative
  else if e + size < -400 then zero negative
  else round negative (m * Nat.pow 10 e.toNat) (Nat.pow 10 (-e).toNat)

/-- Rounds a numeral by a rounding of ratios. -/
def roundNumeral (round : Bool → Nat → Nat → Binary64) (n : Numeral) : Binary64 :=
  ofScaled round n.negative (Decimal.value (n.whole ++ n.fraction)) (n.scale - n.fraction.length)

/-- The double nearest to a numeral. -/
def ofNumeral (n : Numeral) : Binary64 := roundNumeral ofRatio n

/-- The double of the single-precision number nearest to a numeral. -/
def ofNumeralSingle (n : Numeral) : Binary64 := roundNumeral ofRatioSingle n

/-! ### Texts -/

/-- Whether a minus sign stands in front, and what stands behind the sign, if there is one. -/
def splitSign : List Char → Bool × List Char
  | '-' :: cs => (true, cs)
  | '+' :: cs => (false, cs)
  | cs => (false, cs)

/-- Whether there are digits, and nothing else. -/
def areDigits (cs : List Char) : Bool := !cs.isEmpty && cs.all Char.isDigit

/-- Whether a character is not the mark of an exponent. -/
def isNotMark (c : Char) : Bool := c != 'e' && c != 'E'

/-- The numeral without its sign: digits with a point before, between or behind them, and perhaps an
exponent. -/
def unsigned? (negative : Bool) (cs : List Char) : Option Numeral :=
  let digits := cs.takeWhile isNotMark
  let (whole, fraction) := (Text.splitOnce? '.' digits).getD (digits, [])
  if !areDigits (whole ++ fraction) then none
  else
    match cs.dropWhile isNotMark with
    | [] => some ⟨negative, whole, fraction, none⟩
    | _ :: e =>
      let (below, ds) := splitSign e
      if areDigits ds then some ⟨negative, whole, fraction, some (below, ds)⟩ else none

/-- The double that a text denotes under a reading of numerals. -/
def ofText? (reading : Numeral → Binary64) (s : String) : Option Binary64 :=
  let (negative, cs) := splitSign s.toList
  match String.ofList (Text.lower cs) with
  | "nan" => some nan
  | "inf" | "infinity" => some (infinity negative)
  | _ => (unsigned? negative cs).map reading

end SqlUpdate.Binary64
