/-!
# Diagnostics

Everything that stops a grammar from being built or a run from being finished. A rule that
does not match is not among them: that is an outcome.

* `Cause` says what went wrong, with `Cause.message` as its wording.
* `Diagnostic` adds the source text the cause points into and a hint.
-/

namespace DataGrammar

/-- What went wrong. -/
inductive Cause where
  /-- A description of a rule makes no sense. -/
  | invalidDescription (rule reason : String)
  /-- A pattern of a rule does not compile. -/
  | invalidPattern (rule pattern message : String)
  /-- A rule refers to a rule that is not defined. -/
  | unresolvedReference (rule target : String)
  /-- A rule is defined twice. -/
  | duplicateRule (rule : String)
  /-- The rule to run is not defined. -/
  | unknownRule (rule : String)
  /-- More references were active at once than `limit`. -/
  | recursionLimit (limit : Nat)
  /-- Grammar notation that does not parse. -/
  | invalidNotation (reason : String)
  /-- A result that does not fit the requested type. -/
  | coercion (message : String)
  /-- A file that cannot be read. -/
  | io (path message : String)
  /-- A grammar document that does not decode. -/
  | format (name message : String)
  deriving DecidableEq, Repr

/-- The coarse kinds of causes. -/
inductive Category where
  /-- The grammar is malformed. -/
  | grammar
  /-- The caller asked for something that is not there. -/
  | usage
  /-- A run was given up. -/
  | runtime
  /-- Reading or decoding a source failed. -/
  | input
  deriving DecidableEq, Repr

namespace Cause

/-- The wording of a cause. -/
def message : Cause → String
  | .invalidDescription rule reason => s!"invalid description for rule '{rule}': {reason}"
  | .invalidPattern rule pattern message =>
    s!"invalid pattern /{pattern}/ in rule '{rule}': {message}"
  | .unresolvedReference rule target => s!"rule '{rule}' references undefined rule '{target}'"
  | .duplicateRule rule => s!"rule '{rule}' is defined more than once"
  | .unknownRule rule => s!"no rule named '{rule}'"
  | .recursionLimit limit => s!"nesting depth exceeded the limit of {limit}"
  | .invalidNotation reason => s!"invalid grammar notation: {reason}"
  | .coercion message => s!"cannot coerce parse result: {message}"
  | .io path message => s!"cannot read '{path}': {message}"
  | .format name message => s!"invalid {name} grammar: {message}"

/-- The kind of a cause. -/
def category : Cause → Category
  | .invalidDescription .. | .invalidPattern .. => .grammar
  | .unresolvedReference .. | .duplicateRule _ => .grammar
  | .unknownRule _ | .coercion _ => .usage
  | .recursionLimit _ => .runtime
  | .invalidNotation _ | .io .. | .format .. => .input

/-- The code under which a report shows a cause. -/
def code : Cause → String
  | .invalidDescription .. => "parsegraph::invalid_description"
  | .invalidPattern .. => "parsegraph::invalid_pattern"
  | .unresolvedReference .. => "parsegraph::unresolved_reference"
  | .duplicateRule _ => "parsegraph::duplicate_rule"
  | .unknownRule _ => "parsegraph::unknown_rule"
  | .recursionLimit _ => "parsegraph::recursion_limit"
  | .invalidNotation _ => "parsegraph::invalid_notation"
  | .coercion _ => "parsegraph::coercion"
  | .io .. => "parsegraph::io"
  | .format .. => "parsegraph::format"

/-- What a report writes at the place a cause points to. -/
def label : Cause → String
  | .invalidPattern .. => "pattern does not compile"
  | .invalidNotation _ => "parsing stopped here"
  | .duplicateRule _ => "defined again here"
  | _ => "here"

/-- The hint that comes with a cause of its own accord. -/
def hint : Cause → Option String
  | .unresolvedReference _ target =>
    some s!"define a rule named '{target}' or fix the reference"
  | .recursionLimit _ =>
    some ("the grammar may be left-recursive, or the input nests deeper than the configured " ++
      "max_depth")
  | .invalidDescription .. =>
    some ("a description is a pattern, a rule name, an array, or an object with `contains`, " ++
      "`first`, or `repeats`")
  | _ => none

end Cause

/-- A named text and the bytes of it that a diagnostic is about. -/
structure Excerpt where
  name : String
  text : String
  start : Nat
  length : Nat
  deriving DecidableEq, Repr

/-- The span of `text` from the byte `start` to the byte `stop`; backwards spans are empty. -/
def Excerpt.between (name text : String) (start stop : Nat) : Excerpt :=
  ⟨name, text, start, stop - start⟩

/-- A cause, where it lies, and how to mend it. -/
structure Diagnostic where
  cause : Cause
  source : Option Excerpt
  help : Option String
  deriving DecidableEq, Repr

namespace Diagnostic

/-- The diagnostic of a cause that points nowhere. -/
def ofCause (cause : Cause) : Diagnostic := ⟨cause, none, cause.hint⟩

instance : Coe Cause Diagnostic := ⟨ofCause⟩

/-- Point into a source. -/
def withSource (d : Diagnostic) (source : Excerpt) : Diagnostic := { d with source := some source }

/-- Replace the hint. -/
def withHelp (d : Diagnostic) (help : String) : Diagnostic := { d with help := some help }

/-- The wording of the cause. -/
def message (d : Diagnostic) : String := d.cause.message

/-- The code of the cause. -/
def code (d : Diagnostic) : String := d.cause.code

/-- The kind of the cause. -/
def category (d : Diagnostic) : Category := d.cause.category

end Diagnostic
end DataGrammar
