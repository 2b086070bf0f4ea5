import SqlUpdate.CommandLine.Run
/-!
# The program

Reads the files that a command line names, answers it, and prints the answer.
-/

namespace SqlUpdate.CommandLine

/-- The files that are read to answer a request. -/
def Request.files : Request → List String
  | .help | .version => []
  | .perform o (.compile file _) | .perform o (.execute file) => file :: o.config.toList

/-- Why a file cannot be read. A directory can be opened, so only the error of opening a file of the
wrong type names it. -/
def fileError : IO.Error → FileError
  | .noFileOrDirectory .. => .notFound
  | .inappropriateType (some _) .. => .notADirectory
  | .inappropriateType none .. => .isADirectory
  | .invalidArgument .. => .nameTooLong
  | e => .other (toString e)

/-- The text of a file, or why it cannot be read. -/
def readFile (file : String) : IO (Except FileError String) := do
  try
    return .ok (← IO.FS.readFile file)
  catch e =>
    return .error (fileError e)

/-- A database that executes nothing. -/
def noEngine : Executor String := ⟨fun _ _ => .error "no database engine is available"⟩

/-- The environment with the given files. -/
def environment (files : List (String × Except FileError String)) (url : Option String) :
    Environment :=
  ⟨fun file => ((files.find? fun f => f.1 = file).map Prod.snd).getD (.error .notFound),
    url, fun _ => .ok noEngine⟩

end SqlUpdate.CommandLine

open SqlUpdate.CommandLine in
/-- Answers the command line that the program was started with. -/
def main (words : List String) : IO UInt32 := do
  match Request.parse words with
  | .error e =>
    IO.eprintln ("error: " ++ e.message)
    return 2
  | .ok request =>
    let url ← IO.getEnv "DATABASE_URL"
    let files ← request.files.mapM fun file => do return (file, ← readFile file)
    let outcome := request.answer (environment files url)
    IO.print outcome.output
    if let some e := outcome.failure then IO.eprintln ("Error: " ++ e.message)
    return UInt32.ofNat outcome.status
