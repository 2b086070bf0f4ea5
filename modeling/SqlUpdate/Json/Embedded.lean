import SqlUpdate.Json.Reader
/-!
# Documents inside documents

An object whose first member has a reserved name stands for another document: the value of that
member is a string, the string is the text of the other document, and there is no further member.

* `expandWith?` — the document with every embedded one in its place, for a way of reading texts.
* `expand?` — the same where texts are read as documents that may embed others in turn.
-/

namespace SqlUpdate.Json

/-- The name that marks an embedded document. -/
def embeddedName : String := "$serde_json::private::RawValue"

/-- Whether members mark an embedded document. -/
def marksEmbedded : List (Text × Json) → Bool
  | [] => false
  | (s, _) :: _ => decide (s = some embeddedName)

/-- The text of an embedded document. -/
def embeddedText? : List (Text × Json) → Option String
  | [(_, .string s)] => s
  | _ => none

mutual
/-- The document with every embedded one in its place; what a text stands for is given. -/
def expandWith? (read : String → Option Json) : Json → Option Json
  | .array items => (expandItems? read items).map .array
  | .object members =>
    if marksEmbedded members then (embeddedText? members).bind read
    else (expandMembers? read members).map .object
  | .null => some .null
  | .bool b => some (.bool b)
  | .number n => some (.number n)
  | .string s => some (.string s)

/-- The items of an array, each expanded. -/
def expandItems? (read : String → Option Json) : List Json → Option (List Json)
  | [] => some []
  | j :: js => do
    let k ← expandWith? read j
    let ks ← expandItems? read js
    some (k :: ks)

/-- The members of an object, each with its value expanded. -/
def expandMembers? (read : String → Option Json) :
    List (Text × Json) → Option (List (Text × Json))
  | [] => some []
  | (s, j) :: ms => do
    let k ← expandWith? read j
    let ks ← expandMembers? read ms
    some ((s, k) :: ks)
end

mutual
/-- How many characters the strings of a document have, the names of members left out. -/
def characters : Json → Nat
  | .null | .bool _ | .number _ => 0
  | .string s => (s.getD "").length
  | .array items => charactersOfItems items
  | .object members => charactersOfMembers members

/-- How many characters the strings in the items of an array have. -/
def charactersOfItems : List Json → Nat
  | [] => 0
  | j :: js => j.characters + charactersOfItems js

/-- How many characters the strings in the values of an object have. -/
def charactersOfMembers : List (Text × Json) → Nat
  | [] => 0
  | (_, j) :: ms => j.characters + charactersOfMembers ms
end

/-- The document with every embedded one in its place, if those are nested no deeper than the given
number. -/
def expandUpTo? : Nat → Json → Option Json
  | 0 => expandWith? fun _ => none
  | n + 1 => expandWith? fun s => (readShallow? s).bind (expandUpTo? n)

/-- The document with every embedded one in its place. A text is longer than all texts inside it, so
documents embed each other no deeper than their strings have characters. -/
def expand? (j : Json) : Option Json := expandUpTo? j.characters j

end SqlUpdate.Json
