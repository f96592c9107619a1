import DataGrammar.Parser
/-!
# The grammar of the notation

Grammars can be written in a notation of their own, which is JSON with bare words, regular
expressions between slashes, either kind of quotes and trailing commas left out. The notation is
itself described by a grammar, `Notation.grammar`, whose entry rule is `document`.
-/

namespace DataGrammar.Notation

/-- A comma between two entries. -/
def comma : Description := .pattern "\\s*,\\s*"

/-- A choice between rules. -/
def oneOf (nesting : Nesting) (branches : List String) : Description :=
  .choice (branches.map .ref) nesting none none

/-- Entries with commas between them. -/
def commaSeparated (item : String) : Description := .repetition (.ref item) (some comma) 0 none none

/-- A list between brackets, which stands for the two. -/
def bracketed (opening list closing : String) : Description :=
  .series [.pattern opening, .ref list, .pattern closing]

/-- The rules of the notation. -/
def grammar : Definitions := .ofList [
  ("identifier", .pattern "[A-Za-z_][A-Za-z0-9_]*"),
  ("doubleQuoteName", .pattern "\"((?:[^\"\\\\]|\\\\.)*)\""),
  ("singleQuoteName", .pattern "'((?:[^'\\\\]|\\\\.)*)'"),
  ("regexValue", .pattern "/((?:[^/\\\\]|\\\\.)*)/"),
  ("numberValue", .pattern "[-+]?(?:\\d+\\.?\\d*|\\d*\\.?\\d+)"),
  ("boolValue", .pattern "(?:true|false)\\b"),
  ("nullValue", .pattern "(null|undefined)\\b"),
  ("stringValue", oneOf .none ["doubleQuoteName", "singleQuoteName"]),
  ("propertyName", oneOf .none ["identifier", "stringValue"]),
  ("property",
    .series [.ref "propertyName:Name", .pattern "\\s*:\\s*", .ref "propertyValue:Value"]),
  ("propertyList", commaSeparated "property"),
  ("valueList", commaSeparated "propertyValue"),
  ("object", bracketed "\\\x7b\\s*" "propertyList::" "\\s*\\\x7d"),
  ("array", bracketed "\\[\\s*" "valueList::" "\\s*\\]"),
  ("propertyValue", oneOf .matched ["stringValue:String", "regexValue:Regex", "object:Object",
    "array:Array", "numberValue:Number", "boolValue:Boolean", "nullValue:Null",
    "identifier:Identifier"]),
  ("document", bracketed "\\s*" "object::" "\\s*")]

/-- The parser of the notation. -/
def parser : Except Diagnostic Parser := Parser.compile grammar defaultMaxDepth

end DataGrammar.Notation
