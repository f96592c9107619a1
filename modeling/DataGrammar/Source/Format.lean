import DataGrammar.Description
/-!
# Formats of grammars

A grammar is written in JSON, in YAML or in the notation of its own. The name of a file tells which
one it is.
-/

namespace DataGrammar

/-- A format in which a grammar is written. -/
inductive GrammarFormat where
  | json
  | yaml
  /-- The notation for grammars. -/
  | native
  deriving DecidableEq, Repr

namespace GrammarFormat

/-- The name of a format. -/
def label : GrammarFormat → String
  | .json => "JSON"
  | .yaml => "YAML"
  | .native => "notation"

/-- The name of the file at the end of a path; slashes and dots at the end do not count. -/
def fileName? (path : String) : Option (List Char) :=
  let parts := (splitAt '/' path.toList).filter fun part => part ≠ [] ∧ part ≠ ['.']
  match parts.getLast? with
  | some ['.', '.'] | none => none
  | some name => some name

/-- The extension of a file: what follows the last dot, if something comes before that dot. -/
def extension? (name : List Char) : Option (List Char) :=
  match splitAt '.' name.reverse with
  | last :: before :: more => if before = [] ∧ more = [] then none else some last.reverse
  | _ => none

/-- The format of a file. -/
def ofPath (path : String) : GrammarFormat :=
  match (fileName? path).bind extension? with
  | some ['j', 's', 'o', 'n'] => .json
  | some ['y', 'a', 'm', 'l'] | some ['y', 'm', 'l'] => .yaml
  | _ => .native

end GrammarFormat
end DataGrammar
