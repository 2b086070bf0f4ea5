import SqlUpdate.Dialect.Context
/-!
# Contexts from connection URLs

* `Context.ofUrl` — the context of the database that a URL connects to: the scheme names the
  database, and for H2 the first `MODE` setting behind a semicolon names the mode. Blanks around
  the URL and one `jdbc:` in front of it mean nothing.
-/

namespace SqlUpdate

/-- The dialect that a lower-case scheme names; no scheme names the generic one. -/
def Dialect.ofScheme? : String → Option Dialect
  | "h2" => some .h2
  | "postgres" | "postgresql" | "pgsql" => some .postgresql
  | "mysql" => some .mysql
  | "mariadb" => some .mariadb
  | "oracle" => some .oracle
  | "sqlserver" | "mssql" => some .sqlserver
  | "sqlite" => some .sqlite
  | _ => none

namespace Context

/-- A URL without the blanks around it and without `jdbc:`. -/
def urlBody (cs : List Char) : List Char :=
  let cs := Text.trim cs
  (Text.dropLeading? ['j', 'd', 'b', 'c', ':'] cs).getD cs

/-- The settings of a URL, as names and values. -/
def urlSettings (cs : List Char) : List (List Char × List Char) :=
  (Text.splitAll ';' cs).tail.filterMap (Text.splitOnce? '=')

/-- Whether a setting is the mode. -/
def isModeSetting (setting : List Char × List Char) : Bool :=
  Text.lower (Text.trim setting.1) = ['m', 'o', 'd', 'e']

/-- The mode that the settings of a URL name. -/
def urlMode (cs : List Char) : Except Error Mode :=
  match (urlSettings cs).find? isModeSetting with
  | none => .ok .regular
  | some setting => Mode.parse (String.ofList (Text.trim setting.2))

/-- The context of the database that a URL connects to. -/
def ofUrl (url : String) : Except Error Context :=
  let body := urlBody url.toList
  match Text.splitOnce? ':' body with
  | none => .error (.invalidArgument (.notAUrl url))
  | some (scheme, _) =>
    let scheme := String.ofList (Text.lower scheme)
    match Dialect.ofScheme? scheme with
    | some .h2 => (urlMode body).map h2
    | some d => .ok (of d)
    | none => .error (.invalidArgument (.unknownScheme scheme))

end Context

end SqlUpdate
