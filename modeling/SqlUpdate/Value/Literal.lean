import SqlUpdate.Value.Basic
import SqlUpdate.Quoted
import SqlUpdate.Binary64.Shortest
/-!
# Values as SQL literals

A value that is not bound is written as a literal.

* `Value.literal` — the literal: `NULL`, `TRUE`, `FALSE`, a number, a text between single quotes,
  or bytes as pairs of hexadecimal digits.
* `floatStyle` — how doubles are written in SQL.
-/

namespace SqlUpdate.Value

/-- Doubles are written without an exponent and, if they are whole, without a point; of two equally
near decimals the greater one is taken. -/
def floatStyle : FloatStyle := ⟨.up, fun _ => true, false⟩

/-- The literal of a double. -/
def floatLiteral (x : Binary64) : List Char :=
  if x.isNaN then ['N', 'a', 'N']
  else if x.isFinite then (floatStyle.numeral x).text
  else if x.isNegative then ['-', 'i', 'n', 'f']
  else ['i', 'n', 'f']

/-- The upper-case hexadecimal digit of a number below sixteen. -/
def hexChar (n : Nat) : Char := (Nat.digitChar n).toUpper

/-- The two hexadecimal digits of a byte. -/
def hexPair (b : UInt8) : List Char := [hexChar (b.toNat / 16), hexChar (b.toNat % 16)]

/-- The quote of texts and bytes. -/
def singleQuote : Char := '\x27'

/-- The literal of bytes. -/
def blobLiteral (bytes : List UInt8) : List Char :=
  'X' :: Quoted.enclosed singleQuote (bytes.flatMap hexPair)

/-- The literal of a value. -/
def literal : Value → String
  | .null => "NULL"
  | .bool true => "TRUE"
  | .bool false => "FALSE"
  | .int i => Decimal.integer i.toInt
  | .float x => String.ofList (floatLiteral x)
  | .text s => String.ofList (Quoted.enclosed singleQuote s.toList)
  | .blob bytes => String.ofList (blobLiteral bytes)

end SqlUpdate.Value
