import SqlUpdate.Text.Hexadecimal
import SqlUpdate.Text.Utf8
/-!
# Percent signs in URLs

A percent sign and two hexadecimal digits stand for a byte; every other character stands for its
own bytes.

* `octets` — the bytes that a text stands for.
* `formText` — the text that a name or a value in the query of a URL stands for: a plus sign is a
  space there.
-/

namespace SqlUpdate.Percent

/-- The byte that two hexadecimal digits stand for. -/
def octet? (high low : Char) : Option UInt8 := do
  let h ← Text.hexDigit? high
  let l ← Text.hexDigit? low
  some (UInt8.ofNat (16 * h + l))

/-- The bytes that a text stands for. -/
def octets : List Char → List UInt8
  | '%' :: high :: low :: cs =>
    match octet? high low with
    | some b => b :: octets cs
    | none => String.utf8EncodeChar '%' ++ octets (high :: low :: cs)
  | c :: cs => String.utf8EncodeChar c ++ octets cs
  | [] => []

/-- A plus sign made a space. -/
def plusToSpace (c : Char) : Char := if c = '+' then ' ' else c

/-- The text that a name or a value in a query stands for. -/
def formText (cs : List Char) : String :=
  Utf8.text (octets (cs.map plusToSpace))

end SqlUpdate.Percent
