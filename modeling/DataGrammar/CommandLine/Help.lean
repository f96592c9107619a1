import DataGrammar.CommandLine.Request
/-!
# Help texts

What the program prints about itself.
-/

namespace DataGrammar.CommandLine

/-- The name of the program and its version. -/
def versionText : String := "parsegraph 0.1.0\n"

/-- Lines of text. -/
def lines (ls : List String) : String := String.join (ls.map (· ++ "\n"))

/-- What the option for more messages does. -/
def verboseText : String :=
  "Log engine activity to stderr (-v debug, -vv trace). RUST_LOG overrides"

/-- The help on a topic. -/
def Topic.text : Topic → String
  | .program => lines [
    "Run grammars described as data against text.",
    "",
    "Usage: parsegraph [OPTIONS] <COMMAND>",
    "",
    "Commands:",
    "  parse  Match a rule against input and print the outcome as JSON",
    "  check  Compile a grammar and list its rules",
    "  help   Print this message or the help of the given subcommand(s)",
    "",
    "Options:",
    "  -v, --verbose...  " ++ verboseText,
    "  -h, --help        Print help",
    "  -V, --version     Print version"]
  | .command .parse => lines [
    "Match a rule against input and print the outcome as JSON",
    "",
    "Usage: parsegraph parse [OPTIONS] <GRAMMAR> <RULE>",
    "",
    "Arguments:",
    "  <GRAMMAR>  Grammar file (.json, .yaml/.yml, anything else is notation)",
    "  <RULE>     Name of the rule to run",
    "",
    "Options:",
    "      --input <INPUT>  Input text. Without --input or --file, stdin is read",
    "  -v, --verbose...     " ++ verboseText,
    "      --file <FILE>    Read the input from a file",
    "      --complete       Fail unless the whole input is consumed",
    "      --pretty         Pretty-print the JSON outcome",
    "  -h, --help           Print help"]
  | .command .check => lines [
    "Compile a grammar and list its rules",
    "",
    "Usage: parsegraph check [OPTIONS] <GRAMMAR>",
    "",
    "Arguments:",
    "  <GRAMMAR>  Grammar file to check",
    "",
    "Options:",
    "  -v, --verbose...  " ++ verboseText,
    "  -h, --help        Print help"]
  | .help => lines [
    "Print this message or the help of the given subcommand(s)",
    "",
    "Usage: parsegraph help [COMMAND]...",
    "",
    "Arguments:",
    "  [COMMAND]...  Print help for the subcommand(s)"]

end DataGrammar.CommandLine
