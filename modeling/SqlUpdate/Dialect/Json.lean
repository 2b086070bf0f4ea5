import SqlUpdate.Dialect.Context
import SqlUpdate.Json.Members
import SqlUpdate.Json.Reader
import SqlUpdate.Json.Printer
/-!
# Dialects, modes and contexts as JSON

Dialects and modes are words. A context is an object with the member `dialect` and, if a mode is
set, the member `h2_mode`.

More than this is read: a word may also name the only member of an object, which is `null` then, and
a context may be an array of a dialect and perhaps a mode.

* `Dialect.read?`, `Mode.read?` — dialects and modes by any of their lower-case names.
* `Context.toJson` — what is written.
* `Context.ofJson?`, `Context.read?` — what is read: a dialect, and a mode or `null` for no mode.
  Other members are skipped, but no item of an array is.
-/

namespace SqlUpdate

/-- The dialect that a document is. -/
def Dialect.ofJson? (j : Json) : Option Dialect := j.tag?.bind Dialect.ofWord?

/-- The dialect that a JSON text is. -/
def Dialect.read? (s : String) : Option Dialect := (Json.read? s).bind Dialect.ofJson?

/-- The mode that a document is. -/
def Mode.ofJson? (j : Json) : Option Mode := j.tag?.bind Mode.ofWord?

/-- The mode that a JSON text is. -/
def Mode.read? (s : String) : Option Mode := (Json.read? s).bind Mode.ofJson?

namespace Context

/-- A context as a document. -/
def toJson (ctx : Context) : Json :=
  .ofMembers (("dialect", .ofString ctx.dialect.key)
    :: (ctx.modeSetting.map fun m => ("h2_mode", .ofString m.key)).toList)

/-- The mode that a member says is set, if it says so. -/
def modeOfJson? : Option Json → Option (Option Mode)
  | none | some .null => some none
  | some j => (Mode.ofJson? j).map some

/-- What a document gives for the dialect and, perhaps, for the mode: the items of an array in this
order, or the members of an object by their names. -/
def fields? : Json → Option (Json × Option Json)
  | .array [d] => some (d, none)
  | .array [d, m] => some (d, some m)
  | j => do
    let ms ← j.members?
    let d ← Json.required? "dialect" ms
    let m ← Json.member? "h2_mode" ms
    some (d, m)

/-- The context that a document is. -/
def ofJson? (j : Json) : Option Context := do
  let (d, m) ← fields? j
  let d ← Dialect.ofJson? d
  let m ← modeOfJson? m
  some ⟨d, m⟩

/-- The context that a JSON text is. -/
def read? (s : String) : Option Context := (Json.read? s).bind ofJson?

end Context

end SqlUpdate
