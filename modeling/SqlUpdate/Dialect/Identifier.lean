import SqlUpdate.Dialect.Basic
import SqlUpdate.Quoted
/-!
# Identifiers

A name is written bare if it has the shape of an identifier and is no reserved word, and between
the quotes of the dialect otherwise.

* `isPlainName` — whether a name can be written bare.
* `Dialect.identifier` — a name as it is written.
* `Dialect.qualified` — a name behind the name of its table.
-/

namespace SqlUpdate

/-- The words that are never written bare. -/
def reservedWords : List String :=
  ["all", "and", "as", "by", "case", "check", "column", "constraint", "create", "default",
    "delete", "desc", "distinct", "drop", "else", "end", "exists", "from", "group", "having",
    "in", "index", "insert", "into", "is", "join", "key", "like", "limit", "not", "null", "on",
    "or", "order", "primary", "select", "set", "table", "then", "to", "union", "unique",
    "update", "user", "using", "value", "values", "when", "where"]

/-- Whether a bare identifier may start with a character. -/
def isNameStart (c : Char) : Bool := c.isLower || c == '_'

/-- Whether a character may stand in a bare identifier. -/
def isNameChar (c : Char) : Bool := c.isLower || c.isDigit || c == '_'

/-- Whether characters have the shape of a bare identifier. -/
def hasNameShape : List Char → Bool
  | [] => false
  | c :: cs => isNameStart c && cs.all isNameChar

/-- Whether a name can be written bare. -/
def isPlainName (s : String) : Bool := hasNameShape s.toList && !reservedWords.contains s

namespace Dialect

/-- The character around quoted identifiers. -/
def quote : Dialect → Char
  | mysql | mariadb => '\x60'
  | _ => '"'

/-- A name between quotes. -/
def quotedIdentifier (d : Dialect) (s : String) : String :=
  String.ofList (Quoted.enclosed d.quote s.toList)

/-- A name as it is written. -/
def identifier (d : Dialect) (s : String) : String :=
  if isPlainName s then s else d.quotedIdentifier s

/-- A name as it is written behind the name of its table. -/
def qualified (d : Dialect) (table name : String) : String :=
  d.identifier table ++ "." ++ d.identifier name

end Dialect

end SqlUpdate
