import DataGrammar.CommandLine.Response
/-!
# The program

Reads the arguments, the files they name and standard input, and prints the answer.
-/

namespace DataGrammar.CommandLine

/-- The files that a request needs. -/
def Request.paths : Request → List String
  | .help _ | .version => []
  | .check grammar => [grammar]
  | .parse grammar _ (.file path) _ _ => [grammar, path]
  | .parse grammar _ _ _ _ => [grammar]

/-- Whether a request needs standard input. -/
def Request.needsInput : Request → Bool
  | .parse _ _ .standard _ _ => true
  | _ => false

/-- What an error of the system says about a file. -/
def faultOfError : IO.Error → FileFault
  | .noFileOrDirectory .. => .notFound
  | .inappropriateType .. => .isDirectory
  | .invalidArgument .. => .notDirectory
  | _ => .notFound

/-- Read a file as text. -/
def readFile (path : String) : IO (Except FileFault String) := do
  try
    return decodeText (← IO.FS.readBinFile path)
  catch e => return .error (faultOfError e)

/-- Answer a command line of the system. -/
def answer (arguments : List String) : IO Response := do
  let some request := Request.ofArguments arguments | return .ofReport .usage
  let mut files := []
  for path in request.paths do
    files := (path, ← readFile path) :: files
  let contents := files
  let input ← if request.needsInput then
      pure (decodeText (← (← IO.getStdin).readBinToEnd))
    else pure (.ok "")
  let read := fun path =>
    match contents.find? fun f => f.1 = path with
    | some (_, content) => content
    | none => .error .notFound
  return request.respond ⟨read, input⟩

end DataGrammar.CommandLine

open DataGrammar.CommandLine in
/-- Print the answer to the command line. -/
def main (arguments : List String) : IO UInt32 := do
  let r ← answer arguments
  IO.print r.output
  if let some report := r.report then
    if let some code := report.code? then
      IO.eprintln code
    IO.eprintln report.message
  return r.exitCode.toUInt32
