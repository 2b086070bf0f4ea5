import SqlUpdate.Directory
import SqlUpdate.Dialect.Url
import SqlUpdate.Dialect.Json
/-!
# Deciding on a dialect

A dialect can be given by a configuration file, by the URL of the database, and by itself; so can
the mode of an H2 database. Each source overrides those before it.

* `ContextSources` — what was given.
* `ContextSources.resolve` — the context that follows, or the first failure.
-/

namespace SqlUpdate

/-- What became of a configuration file. -/
inductive ConfigFile where
  /-- It cannot be read, for a reason. -/
  | unreadable (reason : FileError)
  /-- It holds a text. -/
  | text (s : String)
  deriving DecidableEq, Repr

/-- What is said about the dialect. -/
structure ContextSources where
  /-- The configuration file. -/
  config : Option ConfigFile
  /-- The URL of the database. -/
  url : Option String
  /-- The dialect. -/
  dialect : Option Dialect
  /-- The mode of an H2 database. -/
  mode : Option Mode
  deriving DecidableEq, Repr

/-- Why no dialect could be decided on. -/
inductive ConfigError where
  /-- The configuration file cannot be read. -/
  | unreadable (reason : FileError)
  /-- The configuration file is no context. -/
  | malformed
  /-- The URL is wrong. -/
  | url (e : Error)
  deriving DecidableEq, Repr

namespace ContextSources

/-- The context that the configuration file gives. -/
def configured (s : ContextSources) : Except ConfigError Context :=
  match s.config with
  | none => .ok .standard
  | some (.unreadable reason) => .error (.unreadable reason)
  | some (.text t) =>
    match Context.read? t with
    | some ctx => .ok ctx
    | none => .error .malformed

/-- The context with a URL in place of the configuration file. -/
def connected (s : ContextSources) (ctx : Context) : Except ConfigError Context :=
  match s.url with
  | none => .ok ctx
  | some url => (Context.ofUrl url).mapError .url

/-- The context with a dialect and a mode in place of its own. -/
def overridden (s : ContextSources) (ctx : Context) : Context :=
  ⟨s.dialect.getD ctx.dialect, s.mode.or ctx.modeSetting⟩

/-- The context that follows. The configuration file and the URL must be right even if something
overrides them. -/
def resolve (s : ContextSources) : Except ConfigError Context := do
  let ctx ← s.configured
  let ctx ← s.connected ctx
  .ok (s.overridden ctx)

end ContextSources

end SqlUpdate
