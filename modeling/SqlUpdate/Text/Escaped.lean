import SqlUpdate.Text.Hexadecimal
import SqlUpdate.Text.Visible
/-!
# Text between quotes, with escapes

* `escape` — a character, or the escape for it: backslashes, double quotes and what cannot be seen
  are escaped.
* `escaped` — a text between double quotes.
-/

namespace SqlUpdate.Text

/-- The letter behind the backslash in the escape of a character, if it has a short one. -/
def shortEscape? : Char → Option Char
  | '\x00' => some '0'
  | '\t' => some 't'
  | '\n' => some 'n'
  | '\r' => some 'r'
  | '"' => some '"'
  | '\\' => some '\\'
  | _ => none

/-- A character, or the escape for it. -/
def escape (c : Char) : List Char :=
  match shortEscape? c with
  | some l => ['\\', l]
  | none => if isVisible c then [c] else ['\\', 'u', '{'] ++ hexDigits c.toNat ++ ['}']

/-- A text between double quotes. -/
def escaped (cs : List Char) : List Char := '"' :: (cs.flatMap escape ++ ['"'])

end SqlUpdate.Text
