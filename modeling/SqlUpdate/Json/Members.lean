import SqlUpdate.Json.Number
/-!
# Taking documents apart

A record is written as an object whose members have the names of its fields, in any order.

* `members?`, `text?`, `items?`, `natural?` — a document of one kind as what it holds.
* `tag?` — the word that a document is in place of a record: a text, or the name of an object's only
  member, which is `null`.
* `member?` — the member of a name, which must not be there twice; `required?` must find it.
* `isClosed` — whether an object has no members but those named.
-/

namespace SqlUpdate.Json

/-- A string that is a text. -/
def text? : Json → Option String
  | .string s => s
  | _ => none

/-- The word that a document is, either as a text or as the name of a `null` that is the only member
of an object. -/
def tag? : Json → Option String
  | .string s => s
  | .object [(s, .null)] => s
  | _ => none

/-- The items of an array. -/
def items? : Json → Option (List Json)
  | .array items => some items
  | _ => none

/-- Names that are texts, with the values they stand for. -/
def namedMembers? : List (Text × Json) → Option (List (String × Json))
  | [] => some []
  | (s, j) :: ms => do
    let name ← s
    let rest ← namedMembers? ms
    some ((name, j) :: rest)

/-- The members of an object, all names of which are texts. -/
def members? : Json → Option (List (String × Json))
  | .object members => namedMembers? members
  | _ => none

/-- A numeral without fraction and exponent whose value fits 64 bits without a sign. -/
def natural? : Json → Option Nat
  | .number n =>
    match numberOf? n with
    | some (.int i) => if 0 ≤ i then some i.toNat else none
    | _ => none
  | _ => none

/-- The member of a name: `some none` if there is none, and `none` if there are several. -/
def member? (name : String) (ms : List (String × Json)) : Option (Option Json) :=
  match ms.filter fun m => m.1 = name with
  | [] => some none
  | [m] => some (some m.2)
  | _ => none

/-- The only member of a name. -/
def required? (name : String) (ms : List (String × Json)) : Option Json := (member? name ms).join

/-- Whether there are no members but those named. -/
def isClosed (names : List String) (ms : List (String × Json)) : Bool :=
  ms.all fun m => names.contains m.1

end SqlUpdate.Json
