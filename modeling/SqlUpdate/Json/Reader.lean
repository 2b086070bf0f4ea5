import SqlUpdate.Json.Token
/-!
# Reading JSON documents

The tokens are taken one at a time onto a stack of the arrays and objects that are still open, so
nesting has no limit here and reading more tokens is continuing the run.

* `Reading.step?` — takes one token.
* `read?` — the document that a whole text is, if it is one: blanks may surround it and nothing
  else may follow.
* `readShallow?` — the same for texts that nest no deeper than 127 levels.
-/

namespace SqlUpdate.Json

/-- An array or object that is still open. -/
inductive Open where
  /-- An array, with its items so far, the last one first. -/
  | array (items : List Json)
  /-- An object, with its members so far, the last one first, and the name of the next one. -/
  | object (members : List (Text × Json)) (name : Text)
  deriving Inhabited

/-- What may come next. -/
inductive Next where
  /-- A value. -/
  | value
  /-- The first item of an array, or its end. -/
  | itemOrEnd
  /-- The first name of an object, or its end. -/
  | nameOrEnd
  /-- A further name of an object with these members. -/
  | name (members : List (Text × Json))
  /-- The colon behind a name. -/
  | colon (members : List (Text × Json)) (name : Text)
  /-- What follows a finished value: a comma, or the end of what encloses it. -/
  | after (value : Json)
  deriving Inhabited

/-- A reader of tokens: what is open, the innermost first, and what may come next. -/
structure Reading where
  /-- What is open. -/
  stack : List Open
  /-- What may come next. -/
  next : Next
  deriving Inhabited

/-- A reader that has just seen the start of a value. -/
def Reading.startValue (stack : List Open) : Token → Option Reading
  | .word v => some ⟨stack, .after v⟩
  | .number n => some ⟨stack, .after (.number n)⟩
  | .string s => some ⟨stack, .after (.string s)⟩
  | .openArray => some ⟨stack, .itemOrEnd⟩
  | .openObject => some ⟨stack, .nameOrEnd⟩
  | _ => none

/-- Takes one token. -/
def Reading.step? (r : Reading) (t : Token) : Option Reading :=
  match r.next with
  | .value => Reading.startValue r.stack t
  | .itemOrEnd =>
    match t with
    | .closeArray => some ⟨r.stack, .after (.array [])⟩
    | t => Reading.startValue (.array [] :: r.stack) t
  | .nameOrEnd =>
    match t with
    | .closeObject => some ⟨r.stack, .after (.object [])⟩
    | .string s => some ⟨r.stack, .colon [] s⟩
    | _ => none
  | .name members =>
    match t with
    | .string s => some ⟨r.stack, .colon members s⟩
    | _ => none
  | .colon members name =>
    match t with
    | .colon => some ⟨.object members name :: r.stack, .value⟩
    | _ => none
  | .after value =>
    match r.stack, t with
    | .array items :: stack, .comma => some ⟨.array (value :: items) :: stack, .value⟩
    | .array items :: stack, .closeArray =>
      some ⟨stack, .after (.array (value :: items).reverse)⟩
    | .object members name :: stack, .comma => some ⟨stack, .name ((name, value) :: members)⟩
    | .object members name :: stack, .closeObject =>
      some ⟨stack, .after (.object ((name, value) :: members).reverse)⟩
    | _, _ => none

/-- The document, if it is finished. -/
def Reading.done? (r : Reading) : Option Json :=
  match r.stack, r.next with
  | [], .after value => some value
  | _, _ => none

/-- The document that a list of tokens is. -/
def ofTokens? (ts : List Token) : Option Json := do
  let r ← ts.foldlM Reading.step? ⟨[], .value⟩
  r.done?

/-- The document that a text is. -/
def read? (s : String) : Option Json := (tokens? s.toList).bind ofTokens?

/-- How deeply the documents that are kept may be nested. -/
def depthLimit : Nat := 127

/-- The document that a text is, unless it is nested too deeply. -/
def readShallow? (s : String) : Option Json := do
  let j ← read? s
  if j.depth ≤ depthLimit then some j else none

end SqlUpdate.Json
