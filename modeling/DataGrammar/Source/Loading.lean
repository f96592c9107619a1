import DataGrammar.Document.OfJson
import DataGrammar.Document.OfYaml
import DataGrammar.Notation.Reading
import DataGrammar.Source.Format
/-!
# Loading grammars

`GrammarFormat.definitions` reads the rules of a grammar off a text in any format.
-/

namespace DataGrammar.GrammarFormat

/-- The diagnostic of a fault at a byte of a text. -/
def fault (format : GrammarFormat) (message name text : String) (place : Nat) : Diagnostic :=
  (Diagnostic.ofCause (.format format.label message)).withSource (.between name text place place)

/-- Read the rules of a grammar off a text; `name` stands for the text in diagnostics. -/
def definitions (format : GrammarFormat) (name text : String) : Except Diagnostic Definitions :=
  match format with
  | .json =>
    match Document.definitions text with
    | .ok d => .ok d
    | .error e => .error (fault .json (e.message text) name text (e.place text))
  | .yaml =>
    match Document.ofYaml? text with
    | some d => .ok d
    | none => .error (fault .yaml "no grammar document" name text 0)
  | .native => Notation.definitions name text

end DataGrammar.GrammarFormat
