import DataGrammar.Diagnostic
import DataGrammar.Matching.Node
/-!
# Compiling descriptions

`Description.compile` makes a node of a description, given the names of the rules, or reports its
first defect in reading order: a pattern that does not compile, or a reference that names no rule.
A separator comes after what it separates.
-/

namespace DataGrammar.Description

/-- The diagnostic of a pattern that does not compile. -/
def patternDiagnostic (rule pattern : String) (refusal : Pattern.Refusal) : Diagnostic :=
  let d := Diagnostic.ofCause (.invalidPattern rule pattern refusal.message)
  match refusal with
  | .fault _ span =>
    d.withSource (.between s!"pattern in rule '{rule}'" pattern span.start span.stop)
  | .tooLarge => d

/-- The place of a name in a list. -/
def indexOf? (name : String) : (names : List String) → Option (Fin names.length)
  | [] => none
  | n :: names => if name = n then some ⟨0, Nat.succ_pos _⟩ else (indexOf? name names).map Fin.succ

/-- Compile a reference. -/
def compileReference (rule : String) (names : List String) (ref : Reference) :
    Except Diagnostic (Node names.length) :=
  if ref.target = "" then
    .error (Cause.invalidDescription rule "a rule reference needs an identifier before ':'")
  else match indexOf? ref.target names with
    | none => .error (Cause.unresolvedReference rule ref.target)
    | some index => .ok (.reference index ref.key ref.collapse)

mutual

/-- Compile a description of `rule` in a grammar with rules `names`. -/
def compile (rule : String) (names : List String) :
    Description → Except Diagnostic (Node names.length)
  | .pattern source =>
    match Pattern.compile source with
    | .ok p => .ok (.terminal p)
    | .error refusal => .error (patternDiagnostic rule source refusal)
  | .reference ref => compileReference rule names ref
  | .sequence parts separator name default => do
    let parts ← compileList rule names parts
    let separator ← compileOption rule names separator
    return .sequence parts separator name default
  | .choice branches nesting name default => do
    let branches ← compileList rule names branches
    return .choice branches nesting name default
  | .repetition item separator least most name => do
    let item ← item.compile rule names
    let separator ← compileOption rule names separator
    return .repetition item separator least most name

/-- Compile descriptions in order. -/
def compileList (rule : String) (names : List String) :
    List Description → Except Diagnostic (List (Node names.length))
  | [] => .ok []
  | d :: ds => do
    let node ← d.compile rule names
    let nodes ← compileList rule names ds
    return node :: nodes

/-- Compile a separator. -/
def compileOption (rule : String) (names : List String) :
    Option Description → Except Diagnostic (Option (Node names.length))
  | none => .ok none
  | some d => do return some (← d.compile rule names)

end

end DataGrammar.Description
