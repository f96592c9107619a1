import DataGrammar.CommandLine.Help
import DataGrammar.Source.File
/-!
# Answers on the command line

`CommandLine.respond` answers a command line, given how files are read and what standard input
holds: an exit code, a text for standard output and a report. The exit code is 0 if the rule
matched, 1 if it did not, and 2 if the command line or anything it refers to is in error.
-/

namespace DataGrammar

/-- The outcome as JSON. -/
def Outcome.toJson (o : Outcome) : Json :=
  .object [("success", .boolean o.success), ("position", .integer o.position),
    ("result", o.result.toJson)]

namespace CommandLine

/-- What is said besides the output. -/
inductive Report where
  /-- The command line makes no sense. -/
  | usage
  /-- The rule did not match the input of a name, or not all of it, and stopped at a byte. -/
  | mismatch (rule input : String) (success : Bool) (position : Nat)
  | diagnostic (d : Diagnostic)
  deriving DecidableEq, Repr

namespace Report

/-- The code under which a report is shown. -/
def code? : Report → Option String
  | .usage => none
  | .mismatch .. => some "parsegraph::mismatch"
  | .diagnostic d => some d.code

/-- The wording. -/
def message : Report → String
  | .usage => "the arguments make no sense; try --help"
  | .mismatch rule input success position =>
    (if success then s!"rule '{rule}' matched only part of the input"
      else s!"rule '{rule}' did not match") ++ s!" ({input}, byte {position})"
  | .diagnostic d => d.message

end Report

/-- The answer to a command line. -/
structure Response where
  exitCode : Nat
  output : String
  report : Option Report
  deriving DecidableEq, Repr

namespace Response

/-- Output and nothing else. -/
def ofOutput (output : String) : Response := ⟨0, output, none⟩

/-- An error. -/
def ofReport (r : Report) : Response := ⟨2, "", some r⟩

/-- The answer to a run: the outcome, and a report if it is not accepted. -/
def ofOutcome (rule name input : String) (complete pretty : Bool) (o : Outcome) : Response :=
  let output := (if pretty then o.toJson.pretty else o.toJson.compact) ++ "\n"
  if if complete then o.isComplete input else o.success then ofOutput output
  else ⟨1, output, some (.mismatch rule name o.success (min o.position input.utf8ByteSize))⟩

end Response

/-- What a command line can see: the files by their paths, and standard input. -/
structure Surroundings where
  read : String → Except FileFault String
  input : Except FileFault String

namespace Surroundings

/-- Load and compile a grammar. -/
def parser (s : Surroundings) (path : String) : Except Diagnostic Parser := do
  Parser.compile (← GrammarFormat.ofFile path (s.read path)) defaultMaxDepth

/-- The name of an input and its text. -/
def inputOf (s : Surroundings) : InputSource → Except Diagnostic (String × String)
  | .text content => .ok ("input", content)
  | .file path => named path (s.read path)
  | .standard => named "<stdin>" s.input
where
  /-- What reading under a name gave. -/
  named (name : String) : Except FileFault String → Except Diagnostic (String × String)
    | .ok text => .ok (name, text)
    | .error f => .error (f.diagnostic name)

/-- Load a grammar and run a rule; the grammar comes before the input. -/
def parse (s : Surroundings) (grammar rule : String) (source : InputSource)
    (complete pretty : Bool) : Except Diagnostic Response := do
  let p ← s.parser grammar
  let (name, input) ← s.inputOf source
  let o ← p.run rule input
  return .ofOutcome rule name input complete pretty o

/-- Load a grammar and list its rules. -/
def check (s : Surroundings) (grammar : String) : Except Diagnostic Response := do
  let p ← s.parser grammar
  return .ofOutput (lines p.names)

end Surroundings

/-- The answer, or the report of what was in error. -/
def Response.ofExcept : Except Diagnostic Response → Response
  | .ok r => r
  | .error d => .ofReport (.diagnostic d)

/-- Answer a request. -/
def Request.respond (s : Surroundings) : Request → Response
  | .help topic => .ofOutput topic.text
  | .version => .ofOutput versionText
  | .parse grammar rule source complete pretty =>
    .ofExcept (s.parse grammar rule source complete pretty)
  | .check grammar => .ofExcept (s.check grammar)

/-- Answer a command line. -/
def respond (s : Surroundings) (arguments : List String) : Response :=
  match Request.ofArguments arguments with
  | some r => r.respond s
  | none => .ofReport .usage

/-- The surroundings of a command line in a directory. -/
def Surroundings.ofDirectory (d : Directory) (input : ByteArray) : Surroundings :=
  ⟨d.read, decodeText input⟩

end CommandLine
end DataGrammar
