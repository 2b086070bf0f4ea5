/-!
# SQL dialects

* `Dialect` — the vendors whose UPDATE is known.
* `Dialect.name`, `Dialect.key` — how a dialect is named in messages and in files.
* `Dialect.ofWord?` — the dialect that a word names in a file; some have several names there.
-/

namespace SqlUpdate

/-- A vendor's SQL. -/
inductive Dialect where
  /-- SQL without any vendor's extensions. -/
  | generic
  | h2
  | mysql
  | mariadb
  | postgresql
  | oracle
  | sqlserver
  | sqlite
  deriving DecidableEq, Repr, Inhabited

namespace Dialect

/-- All dialects. -/
def all : List Dialect := [generic, h2, mysql, mariadb, postgresql, oracle, sqlserver, sqlite]

/-- The name of the dialect in messages. -/
def name : Dialect → String
  | generic => "generic"
  | h2 => "h2"
  | mysql => "mysql"
  | mariadb => "mariadb"
  | postgresql => "postgresql"
  | oracle => "oracle"
  | sqlserver => "sqlserver"
  | sqlite => "sqlite"

/-- The name of the dialect in files. -/
def key : Dialect → String
  | postgresql => "postgres"
  | d => d.name

/-- The other names of the dialect in files. -/
def aliases : Dialect → List String
  | postgresql => ["postgresql", "pgsql"]
  | sqlserver => ["mssql"]
  | _ => []

/-- The words that name the dialect in files. -/
def words (d : Dialect) : List String := d.key :: d.aliases

/-- The dialect that a word names in a file. -/
def ofWord? (s : String) : Option Dialect := all.find? fun d => d.words.contains s

end Dialect

end SqlUpdate
