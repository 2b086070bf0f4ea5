import SqlUpdate.Numeral
/-!
# JSON documents

A document is what a JSON text says before anything is made of it: members keep their order and
their repetitions, and numerals keep their digits.

* `Json` — the document.
* `Json.Text` — a string, which may fail to be one: half of a surrogate pair can be escaped alone.
* `Json.depth` — how many arrays and objects enclose the innermost value.
-/

namespace SqlUpdate

/-- The text of a JSON string; there is none if an escape names half of a surrogate pair without
the other half. -/
abbrev Json.Text := Option String

/-- A JSON document. -/
inductive Json where
  /-- The word `null`. -/
  | null
  /-- The word `true` or `false`. -/
  | bool (value : Bool)
  /-- A number as it is written. -/
  | number (value : Numeral)
  /-- A string. -/
  | string (value : Json.Text)
  /-- The values between brackets. -/
  | array (items : List Json)
  /-- The names and values between braces, in the order in which they are written. -/
  | object (members : List (Json.Text × Json))
  deriving Inhabited

namespace Json

/-- A document that is the given text. -/
def ofString (s : String) : Json := .string (some s)

/-- A document that is the given whole number. -/
def ofInt (i : Int) : Json := .number (Numeral.ofInt i)

/-- An object with the given members. -/
def ofMembers (ms : List (String × Json)) : Json := .object (ms.map fun m => (some m.1, m.2))

mutual
/-- How deeply arrays and objects are nested. -/
def depth : Json → Nat
  | .null | .bool _ | .number _ | .string _ => 0
  | .array items => depthItems items + 1
  | .object members => depthMembers members + 1

/-- The depth of the deepest of the items of an array. -/
def depthItems : List Json → Nat
  | [] => 0
  | j :: js => max j.depth (depthItems js)

/-- The depth of the deepest of the values of an object. -/
def depthMembers : List (Text × Json) → Nat
  | [] => 0
  | (_, j) :: ms => max j.depth (depthMembers ms)
end

end Json

end SqlUpdate
