import SqlUpdate.Dialect.Basic
import SqlUpdate.Error
import SqlUpdate.Text.Cut
/-!
# Which dialect a statement is compiled for

An H2 database can imitate another vendor. A context says which database a statement is for and, if
it is an H2 database, whom it imitates.

* `Mode`, `Mode.delegate?` — the vendor that an H2 database imitates.
* `Context.tableDialect` — the dialect of statements on one table.
* `Context.joinDialect` — the dialect of an UPDATE of a join. The imitation does not go that far
  for three of the vendors, so H2 falls back to its own form there.
* `Dialect.ofFlag?`, `Mode.ofSetting?` — the dialects and modes that lower-case words name outside
  files; `Dialect.parse` and `Mode.parse` read words of any case.
-/

namespace SqlUpdate

/-- The vendor that an H2 database imitates. -/
inductive Mode where
  /-- None. -/
  | regular
  | mysql
  | mariadb
  | postgresql
  | oracle
  | sqlserver
  deriving DecidableEq, Repr, Inhabited

namespace Mode

/-- All modes. -/
def all : List Mode := [regular, mysql, mariadb, postgresql, oracle, sqlserver]

/-- The name of the mode in files. -/
def key : Mode → String
  | regular => "regular"
  | mysql => "mysql"
  | mariadb => "mariadb"
  | postgresql => "postgresql"
  | oracle => "oracle"
  | sqlserver => "sqlserver"

/-- The name of the mode in messages. -/
def title : Mode → String
  | regular => "Regular"
  | mysql => "MySql"
  | mariadb => "MariaDb"
  | postgresql => "PostgreSql"
  | oracle => "Oracle"
  | sqlserver => "SqlServer"

/-- The other names of the mode in files. -/
def aliases : Mode → List String
  | regular => ["h2"]
  | postgresql => ["postgres"]
  | sqlserver => ["mssqlserver", "mssql"]
  | _ => []

/-- The words that name the mode in files. -/
def words (m : Mode) : List String := m.key :: m.aliases

/-- The mode that a word names in a file. -/
def ofWord? (s : String) : Option Mode := all.find? fun m => m.words.contains s

/-- The dialect that is imitated. -/
def delegate? : Mode → Option Dialect
  | regular => none
  | mysql => some .mysql
  | mariadb => some .mariadb
  | postgresql => some .postgresql
  | oracle => some .oracle
  | sqlserver => some .sqlserver

/-- Whether the imitation leaves out the UPDATE of a join. -/
def keepsOwnJoin : Mode → Bool
  | postgresql | oracle | sqlserver => true
  | _ => false

end Mode

/-- A text with the upper-case letters of ASCII made small. -/
def lowerWord (s : String) : String := String.ofList (Text.lower s.toList)

/-- The dialect that a lower-case word names on the command line. -/
def Dialect.ofFlag? : String → Option Dialect
  | "generic" => some .generic
  | "h2" => some .h2
  | "mysql" => some .mysql
  | "mariadb" => some .mariadb
  | "postgres" | "postgresql" | "pgsql" => some .postgresql
  | "oracle" => some .oracle
  | "sqlserver" | "mssql" => some .sqlserver
  | "sqlite" => some .sqlite
  | _ => none

/-- The mode that a lower-case word names on the command line and in the settings of a URL. -/
def Mode.ofSetting? : String → Option Mode
  | "regular" | "h2" => some .regular
  | "mysql" => some .mysql
  | "mariadb" => some .mariadb
  | "postgresql" | "postgres" => some .postgresql
  | "oracle" => some .oracle
  | "mssqlserver" | "sqlserver" | "mssql" => some .sqlserver
  | _ => none

/-- The dialect that a word of any case names. -/
def Dialect.parse (s : String) : Except Error Dialect :=
  match Dialect.ofFlag? (lowerWord s) with
  | some d => .ok d
  | none => .error (.invalidArgument (.unknownDialect (lowerWord s)))

/-- The mode that a word of any case names. -/
def Mode.parse (s : String) : Except Error Mode :=
  match Mode.ofSetting? (lowerWord s) with
  | some m => .ok m
  | none => .error (.invalidArgument (.unknownMode (lowerWord s)))

/-- What a statement is compiled for. -/
structure Context where
  /-- The database. -/
  dialect : Dialect
  /-- The mode that was set; it means something for H2 only. -/
  modeSetting : Option Mode
  deriving DecidableEq, Repr, Inhabited

namespace Context

/-- A database without a mode. -/
def of (d : Dialect) : Context := ⟨d, none⟩

/-- An H2 database in a mode. -/
def h2 (m : Mode) : Context := ⟨.h2, some m⟩

/-- What is assumed when nothing is said. -/
def standard : Context := of .generic

/-- The mode of an H2 database. -/
def mode? (ctx : Context) : Option Mode :=
  if ctx.dialect = .h2 then some (ctx.modeSetting.getD .regular) else none

/-- Whether this is an Oracle database, and not one that imitates it. -/
def isOracle (ctx : Context) : Bool := ctx.dialect = .oracle

/-- The dialect of statements on one table. -/
def tableDialect (ctx : Context) : Dialect := (ctx.mode?.bind Mode.delegate?).getD ctx.dialect

/-- The dialect of an UPDATE of a join. -/
def joinDialect (ctx : Context) : Dialect :=
  match ctx.mode? with
  | some m => if m.keepsOwnJoin then .h2 else ctx.tableDialect
  | none => ctx.tableDialect

/-- The context in messages. -/
def display (ctx : Context) : String :=
  match ctx.mode? with
  | some .regular | none => ctx.dialect.name
  | some m => "h2 (" ++ m.title ++ " mode)"

end Context

end SqlUpdate
