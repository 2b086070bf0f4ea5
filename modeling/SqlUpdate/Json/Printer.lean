import SqlUpdate.Json.Basic
/-!
# Writing JSON documents

* `compact` — without any blanks.
* `pretty` — a line for each value and two blanks for each level; an array or object without
  members stays on its line.

A string escapes quotes, backslashes and the control characters below the blank, and nothing else.
-/

namespace SqlUpdate.Json

/-- The lower-case hexadecimal digit of a number below sixteen. -/
def hexChar (n : Nat) : Char := Nat.digitChar n

/-- A character of a string as it is written. -/
def escapeChar (c : Char) : List Char :=
  if c = '"' then ['\\', '"']
  else if c = '\\' then ['\\', '\\']
  else if c = '\x08' then ['\\', 'b']
  else if c = '\x0c' then ['\\', 'f']
  else if c = '\n' then ['\\', 'n']
  else if c = '\r' then ['\\', 'r']
  else if c = '\t' then ['\\', 't']
  else if c.toNat < 0x20 then
    ['\\', 'u', '0', '0', hexChar (c.toNat / 16), hexChar (c.toNat % 16)]
  else [c]

/-- A string as it is written. A string that is no text is written as an empty one. -/
def quoted (s : Text) : List Char :=
  '"' :: ((s.getD "").toList.flatMap escapeChar ++ ['"'])

/-- One of the two words for truth values. -/
def boolWord : Bool → List Char
  | true => ['t', 'r', 'u', 'e']
  | false => ['f', 'a', 'l', 's', 'e']

/-- The word for nothing. -/
def nullWord : List Char := ['n', 'u', 'l', 'l']

mutual
/-- A document without any blanks. -/
def compact : Json → List Char
  | .null => nullWord
  | .bool b => boolWord b
  | .number n => n.text
  | .string s => quoted s
  | .array items => '[' :: (compactItems items ++ [']'])
  | .object members => '{' :: (compactMembers members ++ ['}'])

/-- The items of an array, with commas between them. -/
def compactItems : List Json → List Char
  | [] => []
  | [j] => j.compact
  | j :: k :: js => j.compact ++ ',' :: compactItems (k :: js)

/-- The members of an object, with commas between them. -/
def compactMembers : List (Text × Json) → List Char
  | [] => []
  | [(s, j)] => quoted s ++ ':' :: j.compact
  | (s, j) :: m :: ms => quoted s ++ ':' :: j.compact ++ ',' :: compactMembers (m :: ms)
end

/-- The start of a line at a level. -/
def newLine (level : Nat) : List Char := '\n' :: List.replicate (2 * level) ' '

mutual
/-- A document that starts at a level, with a line for each value in it. -/
def prettyAt (level : Nat) : Json → List Char
  | .null => nullWord
  | .bool b => boolWord b
  | .number n => n.text
  | .string s => quoted s
  | .array [] => ['[', ']']
  | .array (j :: js) => '[' :: (prettyItems (level + 1) (j :: js) ++ newLine level ++ [']'])
  | .object [] => ['{', '}']
  | .object (m :: ms) => '{' :: (prettyMembers (level + 1) (m :: ms) ++ newLine level ++ ['}'])

/-- The items of an array, each on its lines. -/
def prettyItems (level : Nat) : List Json → List Char
  | [] => []
  | [j] => newLine level ++ prettyAt level j
  | j :: k :: js => newLine level ++ prettyAt level j ++ ',' :: prettyItems level (k :: js)

/-- The members of an object, each on its lines. -/
def prettyMembers (level : Nat) : List (Text × Json) → List Char
  | [] => []
  | [(s, j)] => newLine level ++ quoted s ++ ':' :: ' ' :: prettyAt level j
  | (s, j) :: m :: ms =>
    newLine level ++ quoted s ++ ':' :: ' ' :: prettyAt level j ++ ',' :: prettyMembers level (m :: ms)
end

/-- A document with a line for each value in it. -/
def pretty (j : Json) : List Char := prettyAt 0 j

end SqlUpdate.Json
