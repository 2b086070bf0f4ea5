import SqlUpdate.Dialect.Context
/-!
# The words of a command line

`[OPTIONS] compile [--inline] FILE` or `[OPTIONS] execute FILE`. Options stand in front of the
command; each may be given once; an option that takes a value has it behind an equals sign, in the
next word, or, for its one-letter name, in the same word.

* `Request` — what is asked for.
* `Request.parse` — what a command line asks for, or the first thing that is wrong with it.
-/

namespace SqlUpdate.CommandLine

/-- What the options say. -/
structure Options where
  /-- The URL of the database. -/
  database : Option String
  /-- The configuration file. -/
  config : Option String
  /-- The dialect. -/
  dialect : Option Dialect
  /-- The mode of an H2 database. -/
  mode : Option Mode
  /-- Whether everything is reported. -/
  verbose : Bool
  deriving DecidableEq, Repr, Inhabited

/-- No options. -/
def Options.none : Options := ⟨.none, .none, .none, .none, false⟩

/-- What is done. -/
inductive Command where
  /-- Print the text of the statement of a file, with placeholders or with literals. -/
  | compile (file : String) (inline : Bool)
  /-- Execute the statement of a file. -/
  | execute (file : String)
  deriving DecidableEq, Repr

/-- What is asked for. -/
inductive Request where
  /-- How the program is used. -/
  | help
  /-- Which version of the program this is. -/
  | version
  /-- That something is done. -/
  | perform (options : Options) (command : Command)
  deriving DecidableEq, Repr

/-- What is wrong with a command line. -/
inductive UsageError where
  /-- There is no command. -/
  | missingCommand
  /-- There is no such command. -/
  | unknownCommand (word : String)
  /-- There is no such option here. -/
  | unknownOption (word : String)
  /-- The value of an option is missing. -/
  | missingValue (word : String)
  /-- The option takes no value. -/
  | unexpectedValue (word : String)
  /-- The option was given before. -/
  | repeated (word : String)
  /-- The value of an option is wrong. -/
  | invalidValue (e : Error)
  /-- The name of a file is empty. -/
  | emptyPath
  /-- There is no file. -/
  | missingFile
  /-- There is a word too many. -/
  | unexpectedWord (word : String)
  deriving DecidableEq, Repr

/-- What is wrong, in words. -/
def UsageError.message : UsageError → String
  | .missingCommand => "a command is missing: compile or execute"
  | .unknownCommand word => "unknown command: " ++ word
  | .unknownOption word => "unknown option: " ++ word
  | .missingValue word => "a value is missing for " ++ word
  | .unexpectedValue word => "no value is expected for " ++ word
  | .repeated word => "given more than once: " ++ word
  | .invalidValue e => e.message
  | .emptyPath => "the name of a file is empty"
  | .missingFile => "a file is missing"
  | .unexpectedWord word => "unexpected word: " ++ word

/-! ### Options -/

/-- The options that take a value. -/
inductive ValueOption where
  | database
  | config
  | dialect
  | mode
  deriving DecidableEq, Repr

namespace ValueOption

/-- The option of a long name. -/
def ofName? : String → Option ValueOption
  | "database" => some database
  | "config" => some config
  | "dialect" => some dialect
  | "h2-mode" => some mode
  | _ => none

/-- The option of a one-letter name. -/
def ofLetter? : Char → Option ValueOption
  | 'd' => some database
  | 'c' => some config
  | _ => none

/-- The long name of the option. -/
def name : ValueOption → String
  | database => "database"
  | config => "config"
  | dialect => "dialect"
  | mode => "h2-mode"

end ValueOption

/-- The first value of an option. -/
def once {α : Type} (word : String) (old : Option α) (new : α) : Except UsageError (Option α) :=
  if old.isSome then .error (.repeated word) else .ok (some new)

/-- The name of a file. -/
def path (s : String) : Except UsageError String := if s = "" then .error .emptyPath else .ok s

namespace Options

/-- The options with one more value. -/
def give (o : Options) (k : ValueOption) (v : String) : Except UsageError Options :=
  match k with
  | .database => (once k.name o.database v).map fun v => { o with database := v }
  | .config => do
    let v ← path v
    (once k.name o.config v).map fun v => { o with config := v }
  | .dialect => do
    let d ← (Dialect.parse v).mapError .invalidValue
    (once k.name o.dialect d).map fun d => { o with dialect := d }
  | .mode => do
    let m ← (Mode.parse v).mapError .invalidValue
    (once k.name o.mode m).map fun m => { o with mode := m }

/-- The options with everything reported. -/
def giveVerbose (o : Options) : Except UsageError Options :=
  if o.verbose then .error (.repeated "verbose") else .ok { o with verbose := true }

end Options

/-- What a word of options comes to. -/
inductive Given where
  /-- More options. -/
  | options (o : Options)
  /-- An option whose value is the next word. -/
  | awaits (o : Options) (k : ValueOption)
  /-- A request that needs nothing else. -/
  | request (r : Request)

/-- What the letters of a word behind a single dash come to. -/
def givenByLetters (o : Options) : List Char → Except UsageError Given
  | [] => .ok (.options o)
  | 'v' :: cs => do
    let o ← o.giveVerbose
    givenByLetters o cs
  | 'V' :: _ => .ok (.request .version)
  | 'h' :: _ => .ok (.request .help)
  | c :: cs =>
    match ValueOption.ofLetter? c, cs with
    | none, _ => .error (.unknownOption (String.ofList [c]))
    | some k, [] => .ok (.awaits o k)
    | some k, '=' :: cs => (o.give k (String.ofList cs)).map .options
    | some k, cs => (o.give k (String.ofList cs)).map .options

/-- What a long name, with or without a value, comes to. -/
def givenByName (o : Options) (name : String) (value : Option String) : Except UsageError Given :=
  match ValueOption.ofName? name, value with
  | some k, some v => (o.give k v).map .options
  | some k, none => .ok (.awaits o k)
  | none, none =>
    if name = "verbose" then o.giveVerbose.map .options
    else if name = "version" then .ok (.request .version)
    else if name = "help" then .ok (.request .help)
    else .error (.unknownOption name)
  | none, some _ =>
    if name = "verbose" ∨ name = "version" ∨ name = "help" then .error (.unexpectedValue name)
    else .error (.unknownOption name)

/-- The long name in a word, and the value behind an equals sign. -/
def nameAndValue (cs : List Char) : String × Option String :=
  match Text.splitOnce? '=' cs with
  | some (name, value) => (String.ofList name, some (String.ofList value))
  | none => (String.ofList cs, none)

/-- What a word that starts with a dash comes to; two dashes alone are no option. -/
def givenByWord (o : Options) (word : List Char) : Except UsageError Given :=
  match word with
  | '-' :: '-' :: [] => .error .missingCommand
  | '-' :: '-' :: cs => givenByName o (nameAndValue cs).1 (nameAndValue cs).2
  | '-' :: cs => givenByLetters o cs
  | cs => .error (.unknownOption (String.ofList cs))

/-- Whether a word is read as options: it starts with a dash and is not just that. -/
def isOptionWord (word : String) : Bool :=
  match word.toList with
  | '-' :: _ :: _ => true
  | _ => false

/-! ### Commands -/

/-- What an option of one letter behind a command comes to: there is only the one for help, and
letters behind it mean nothing. -/
def isHelpWord (word : String) : Bool :=
  match word.toList with
  | '-' :: 'h' :: _ => true
  | _ => word = "--help"

/-- Reads the words behind `compile`. -/
def parseCompile (o : Options) (file : Option String) (inline escaped : Bool) :
    List String → Except UsageError Request
  | [] => match file with
    | some f => .ok (.perform o (.compile f inline))
    | none => .error .missingFile
  | w :: ws =>
    if escaped || !isOptionWord w then
      if file.isSome then .error (.unexpectedWord w)
      else do
        let f ← path w
        parseCompile o (some f) inline escaped ws
    else if w = "--" then parseCompile o file inline true ws
    else if w = "--inline" then
      if inline then .error (.repeated "inline") else parseCompile o file true escaped ws
    else if isHelpWord w then .ok .help
    else .error (.unknownOption w)

/-- Reads the words behind `execute`. -/
def parseExecute (o : Options) (file : Option String) (escaped : Bool) :
    List String → Except UsageError Request
  | [] => match file with
    | some f => .ok (.perform o (.execute f))
    | none => .error .missingFile
  | w :: ws =>
    if escaped || !isOptionWord w then
      if file.isSome then .error (.unexpectedWord w)
      else do
        let f ← path w
        parseExecute o (some f) escaped ws
    else if w = "--" then parseExecute o file true ws
    else if isHelpWord w then .ok .help
    else .error (.unknownOption w)

/-- The names of the commands. -/
def commandNames : List String := ["compile", "execute", "help"]

/-- Reads the words behind `help`: at most one, and it must name a command. -/
def parseHelp : List String → Except UsageError Request
  | [] => .ok .help
  | w :: ws =>
    if commandNames.contains w then
      match ws with
      | [] => .ok .help
      | v :: _ => .error (.unknownCommand v)
    else .error (.unknownCommand w)

/-- Reads a command and the words behind it. -/
def parseCommand (o : Options) (word : String) (ws : List String) : Except UsageError Request :=
  if word = "compile" then parseCompile o none false false ws
  else if word = "execute" then parseExecute o none false ws
  else if word = "help" then parseHelp ws
  else .error (.unknownCommand word)

/-- Reads the words of a command line behind some options. -/
def parseFrom (o : Options) : List String → Except UsageError Request
  | [] => .error .missingCommand
  | w :: ws =>
    if isOptionWord w then
      match givenByWord o w.toList with
      | .error e => .error e
      | .ok (.options o) => parseFrom o ws
      | .ok (.request r) => .ok r
      | .ok (.awaits o k) =>
        match ws with
        | [] => .error (.missingValue k.name)
        | v :: ws =>
          if isOptionWord v then .error (.missingValue k.name)
          else match o.give k v with
            | .error e => .error e
            | .ok o => parseFrom o ws
    else parseCommand o w ws

/-- What a command line asks for. -/
def Request.parse (words : List String) : Except UsageError Request := parseFrom Options.none words

end SqlUpdate.CommandLine
