import SqlUpdate.Value.Basic
import SqlUpdate.Json.Members
import SqlUpdate.Json.Reader
/-!
# Arguments as JSON

An argument is an object with the members `column_type` and `value`; the value is an object whose
member `type` says what its member `value` holds. The absence of a value needs no `value`, numbers
and truth values stand for themselves, and bytes are an array of numbers.

* `Value.toJson`, `Argument.toJson` — what is written.
* `Value.ofJson?`, `Argument.ofJson?` — what is read. Members may come in any order, must not be
  repeated, and are skipped if their name means nothing here.
-/

namespace SqlUpdate

/-- A whole number as a value, if it fits 64 bits with a sign. -/
def Value.ofInt? (i : Int) : Option Value :=
  if Int64.minValue.toInt ≤ i ∧ i ≤ Int64.maxValue.toInt then some (.int (Int64.ofInt i)) else none

/-- A byte as a document. -/
def Json.ofByte (b : UInt8) : Json := .ofInt b.toNat

/-- A document as a byte. -/
def Json.byte? (j : Json) : Option UInt8 := do
  let n ← j.natural?
  if n < 256 then some (UInt8.ofNat n) else none

namespace Value

/-- The word that says what kind of value this is. -/
def kind : Value → String
  | .null => "null"
  | .bool _ => "bool"
  | .int _ => "int"
  | .float _ => "float"
  | .text _ => "text"
  | .blob _ => "blob"

/-- What a value holds, if it holds anything. -/
def content? : Value → Option Json
  | .null => none
  | .bool b => some (.bool b)
  | .int i => some (.ofInt i.toInt)
  | .float x => some (.ofBinary64 x)
  | .text s => some (.ofString s)
  | .blob bytes => some (.array (bytes.map Json.ofByte))

/-- A value as a document. -/
def toJson (v : Value) : Json :=
  .ofMembers (("type", .ofString v.kind) :: (v.content?.map fun c => ("value", c)).toList)

/-- The truth value that a document is. -/
def boolOfJson? : Json → Option Value
  | .bool b => some (.bool b)
  | _ => none

/-- The whole number that a document is. -/
def intOfJson? : Json → Option Value
  | .number n =>
    match Json.numberOf? n with
    | some (.int i) => ofInt? i
    | _ => none
  | _ => none

/-- The double that a document is; whole numbers are rounded to one. -/
def floatOfJson? : Json → Option Value
  | .number n =>
    match Json.numberOf? n with
    | some (.int i) => some (.float (Binary64.ofRatio (decide (i < 0)) i.natAbs 1))
    | some (.float x) => some (.float x)
    | none => none
  | _ => none

/-- The value of a kind with a content. -/
def ofContent? (kind : String) (content : Option Json) : Option Value :=
  match kind, content with
  | "null", none => some .null
  | "null", some .null => some .null
  | "bool", some j => boolOfJson? j
  | "int", some j => intOfJson? j
  | "float", some j => floatOfJson? j
  | "text", some j => j.text?.map .text
  | "blob", some j => do
    let items ← j.items?
    let bytes ← items.mapM Json.byte?
    some (.blob bytes)
  | _, _ => none

/-- The value that a document is. -/
def ofJson? (j : Json) : Option Value := do
  let ms ← j.members?
  let kind ← Json.required? "type" ms
  let content ← Json.member? "value" ms
  let kind ← kind.text?
  ofContent? kind content

end Value

namespace Argument

/-- An argument as a document. -/
def toJson (a : Argument) : Json :=
  .ofMembers [("column_type", .ofString a.type.name), ("value", a.value.toJson)]

/-- The argument that a document is. -/
def ofJson? (j : Json) : Option Argument := do
  let ms ← j.members?
  let type ← Json.required? "column_type" ms
  let value ← Json.required? "value" ms
  let type ← type.text?
  let type ← ColumnType.ofName? type
  let value ← Value.ofJson? value
  some ⟨type, value⟩

/-- The argument that a JSON text is. -/
def read? (s : String) : Option Argument := (Json.read? s).bind ofJson?

end Argument

end SqlUpdate
