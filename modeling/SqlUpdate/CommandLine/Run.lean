import SqlUpdate.CommandLine.Request
import SqlUpdate.Config
import SqlUpdate.Directory
import SqlUpdate.Storage.Location
import SqlUpdate.Execution
import SqlUpdate.StatementFile.Json
import SqlUpdate.StatementFile.Resolve
/-!
# What the program does

* `Environment` — what the program finds around it: files, a URL, databases.
* `Outcome` — what it leaves behind: a status, what it printed, and why it failed.
* `run` — answers a command line. The dialect is decided on first; then a file is read, and its
  statement is printed or executed.
-/

namespace SqlUpdate.CommandLine

/-- What the program finds around it. -/
structure Environment where
  /-- The text of a file, or why it cannot be read. -/
  file : String → Except FileError String
  /-- The URL that is used if none is given. -/
  databaseUrl : Option String
  /-- The database that is kept in a place, or why it cannot be opened. -/
  database : Storage → Except StorageError (Executor String)

/-- Why something could not be done. -/
inductive RunError where
  /-- The configuration file cannot be read. -/
  | readingConfig (file : String)
  /-- The configuration file is no context. -/
  | parsingConfig (file : String)
  /-- The statement file cannot be read. -/
  | unreadable (reason : FileError)
  /-- The statement file is no JSON, or not of the right form. -/
  | malformed
  /-- The URL or the statement is wrong. -/
  | error (e : Error)
  /-- The database is not one that statements can be executed on. -/
  | notSqlite (ctx : Context)
  /-- There is no URL of a database. -/
  | databaseRequired
  /-- The database cannot be found or opened. -/
  | storage (e : StorageError)
  /-- The statement cannot be compiled for execution. -/
  | statement (e : Error)
  /-- The database failed. -/
  | driver (reason : String)
  deriving DecidableEq, Repr

/-- Why something could not be done, in words. -/
def RunError.message : RunError → String
  | .readingConfig file => "reading " ++ file
  | .parsingConfig file => "parsing " ++ file
  | .unreadable reason => reason.message
  | .malformed => "malformed statement file"
  | .error e => e.message
  | .notSqlite ctx => "execution is only supported for SQLite, not " ++ ctx.display
  | .databaseRequired => "--database is required to execute a statement"
  | .storage e => e.message
  | .statement e => "statement error: " ++ e.message
  | .driver reason => reason

/-- What the program leaves behind. -/
structure Outcome where
  /-- The status: zero if all went well, one if something could not be done, and two if the command
  line is wrong. -/
  status : Nat
  /-- What was printed. -/
  output : String
  /-- Why something could not be done. -/
  failure : Option RunError
  deriving DecidableEq, Repr

/-- The name and the version of the program. -/
def versionLine : String := "sqlweave 0.1.0\n"

/-- How the program is used. -/
def helpText : String :=
  "Usage: sqlweave [OPTIONS] <COMMAND>\n\n"
    ++ "Commands:\n"
    ++ "  compile [--inline] <FILE>  Print the compiled SQL and its arguments as JSON\n"
    ++ "  execute <FILE>             Execute the statement against a SQLite database\n\n"
    ++ "Options:\n"
    ++ "  -d, --database <URL>       Database URL; also selects the dialect\n"
    ++ "  -c, --config <FILE>        JSON file with a dialect context\n"
    ++ "      --dialect <DIALECT>    Dialect\n"
    ++ "      --h2-mode <MODE>       H2 compatibility mode\n"
    ++ "  -v, --verbose              Enable verbose output\n"
    ++ "  -h, --help                 Print help\n"
    ++ "  -V, --version              Print version\n"

/-- What a command came to: what was printed besides the log, or why it failed. -/
abbrev Attempt := Except RunError String × Session

/-- The document that describes a compiled statement. -/
def describe (p : Prepared) : Json :=
  .ofMembers [("dialect", p.context.toJson), ("sql", .ofString p.sql),
    ("arguments", .array (p.arguments.map fun as => .array (as.map Argument.toJson)))]

/-- A text on a line of its own. -/
def line (s : String) : String := s ++ "\n"

/-- Reads a statement file. -/
def load (env : Environment) (file : String) : Except RunError Update := do
  let text ← (env.file file).mapError .unreadable
  let f ← match StatementFile.read? text with
    | some f => .ok f
    | none => .error .malformed
  f.statement.mapError .error

/-- Prints the statement of a file. -/
def compile (env : Environment) (ctx : Context) (file : String) (inline : Bool) (s : Session) :
    Attempt :=
  match load env file with
  | .error e => (.error e, s)
  | .ok u =>
    if inline then
      let (sql, s) := s.inline ctx u
      ((sql.map line).mapError .error, s)
    else
      let (p, s) := s.prepare ctx u
      ((p.map fun p => line (String.ofList (describe p).pretty)).mapError .error, s)

/-- Why a statement was not executed. -/
def RunError.ofFailure : Failure String → RunError
  | .statement e => .statement e
  | .driver reason => .driver reason

/-- Opens the database that a URL connects to. -/
def connect (env : Environment) (url : String) : Except StorageError (Executor String) := do
  env.database (← Storage.ofUrl url)

/-- Executes the statement of a file. -/
def execute (env : Environment) (ctx : Context) (url : Option String) (file : String)
    (s : Session) : Attempt :=
  if ctx.dialect ≠ .sqlite then (.error (.notSqlite ctx), s)
  else
    match url with
    | none => (.error .databaseRequired, s)
    | some url =>
      match load env file with
      | .error e => (.error e, s)
      | .ok u =>
        match connect env url with
        | .error e => (.error (.storage e), s)
        | .ok database =>
          match s.execute database ctx u with
          | (.ok rows, s) => (.ok "", s.report [.updated rows])
          | (.error e, s) => (.error (.ofFailure e), s)

/-- Does what a command says. -/
def Command.run (env : Environment) (ctx : Context) (url : Option String) (s : Session) :
    Command → Attempt
  | .compile file inline => CommandLine.compile env ctx file inline s
  | .execute file => CommandLine.execute env ctx url file s

/-- The URL of the database. -/
def Options.url (o : Options) (env : Environment) : Option String := o.database.or env.databaseUrl

/-- What is known about a configuration file. -/
def readConfig (env : Environment) (file : String) : ConfigFile :=
  match env.file file with
  | .ok text => .text text
  | .error reason => .unreadable reason

/-- What is said about the dialect. -/
def Options.sources (o : Options) (env : Environment) : ContextSources :=
  ⟨o.config.map (readConfig env), o.url env, o.dialect, o.mode⟩

/-- Why no dialect could be decided on. -/
def RunError.ofConfig (file : Option String) : ConfigError → RunError
  | .unreadable _ => .readingConfig (file.getD "")
  | .malformed => .parsingConfig (file.getD "")
  | .url e => .error e

/-- Whether an event is reported. -/
def isReported (verbose : Bool) (e : Event) : Bool := verbose || e.level ≠ .debug

/-- The lines of a log that are printed. -/
def logText (verbose : Bool) (log : List Event) : String :=
  String.join ((log.filter (isReported verbose)).map fun e => line e.line)

/-- Does what is asked for with some options. -/
def runCommand (env : Environment) (o : Options) (c : Command) : Outcome :=
  match (o.sources env).resolve with
  | .error e => ⟨1, "", some (.ofConfig o.config e)⟩
  | .ok ctx =>
    match c.run env ctx (o.url env) (Session.start.report [.resolved ctx]) with
    | (.ok text, s) => ⟨0, logText o.verbose s.log ++ text, none⟩
    | (.error e, s) => ⟨1, logText o.verbose s.log, some e⟩

/-- Answers a request. -/
def Request.answer (env : Environment) : Request → Outcome
  | .help => ⟨0, helpText, none⟩
  | .version => ⟨0, versionLine, none⟩
  | .perform o c => runCommand env o c

/-- Answers a command line. -/
def run (env : Environment) (words : List String) : Outcome :=
  match Request.parse words with
  | .ok r => r.answer env
  | .error _ => ⟨2, "", none⟩

end SqlUpdate.CommandLine
