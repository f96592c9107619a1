import DataGrammar.Definitions
import DataGrammar.Document.Describe
import DataGrammar.Yaml.Atom
import DataGrammar.Yaml.Reader
/-!
# Grammar documents in YAML

A grammar document has the same form as in JSON. Its nodes are expanded: an alias is replaced by
the node it stands for. How much that may add is limited, by the depth of collections and by the
number of replacements.
-/

namespace DataGrammar.Document

/-- The key that an atom is; of numbers only those without a sign can name a field. -/
def Key.ofAtom : Yaml.Atom → Key
  | .text s => .text s
  | .integer false n => .number n
  | _ => .other

/-- The tree of an atom; whole numbers must fit 64 bits. -/
def Tree.ofAtom? : Yaml.Atom → Option Tree
  | .null => some .null
  | .boolean b => some (.boolean b)
  | .integer false n => if n < Nat.pow 2 64 then some (.integer n) else none
  | .integer true n => if n ≤ Nat.pow 2 63 then some (.integer (-n)) else none
  | .float negative m => some (.float negative m)
  | .text s => some (.text s)

/-- A step of the expansion; the state is the number of replacements that are left. -/
abbrev Expand (α : Type) := StateT Nat Option α

namespace Expand

/- The nodes with anchors, the last one first. -/
variable (anchored : List (Nat × Yaml.Node))

/-- The node that a node stands for. -/
def follow : Yaml.Node → Expand Yaml.Node
  | .reference n => do
    let left ← get
    guard (left ≠ 0)
    set (left - 1)
    anchored.lookup n
  | n => return n

/-- The properties are such that a collection can be read. -/
def isReadable (p : Yaml.Properties) : Bool := !p.tag.any Yaml.Tag.isForeign

/-- What a node is as a key and as a value; collections in it nest at most `depth` deep. -/
def readNode (depth : Nat) (n : Yaml.Node) : Expand (Key × Tree) := do
  match ← follow anchored n with
  | .reference _ => failure
  | .scalar p style text =>
    let atom ← Yaml.Atom.ofScalar? p.tag style text
    return (.ofAtom atom, ← Tree.ofAtom? atom)
  | .list p items =>
    guard (isReadable p)
    match depth with
    | 0 => failure
    | depth + 1 => do
      let parts ← items.mapM (readNode depth)
      return (.other, .list (parts.map Prod.snd))
  | .map p entries =>
    guard (isReadable p)
    match depth with
    | 0 => failure
    | depth + 1 => do
      let parts ← entries.mapM fun (key, value) =>
        return ((← readNode depth key).1, (← readNode depth value).2)
      return (.other, .map parts)

/-- Read the text of a scalar that is a key. -/
def readKey (n : Yaml.Node) : Expand String := do
  match ← follow anchored n with
  | .scalar _ _ text => return text
  | _ => failure

/-- Read a rule. -/
def readRule (depth : Nat) (entry : Yaml.Node × Yaml.Node) : Expand (String × Description) := do
  let name ← readKey anchored entry.1
  let (_, t) ← readNode anchored depth entry.2
  match t.describe? with
  | some (.ok d) => return (name, d)
  | _ => failure

/-- Read the definitions of rules; where nothing is written there are none. -/
def readDefinitions (depth : Nat) (n : Yaml.Node) : Expand Definitions := do
  match ← follow anchored n with
  | .scalar _ .plain "" => return .empty
  | .map _ entries => return .ofList (← entries.mapM (readRule anchored (depth - 1)))
  | _ => failure

/-- Read a document. -/
def readDocument (root : Yaml.Node) : Expand Definitions := do
  match root with
  | .map _ [(key, value)] => do
    guard ((← readKey anchored key) = "definitions")
    readDefinitions anchored (Yaml.Read.maxDepth - 1) value
  | .list _ [value] => readDefinitions anchored (Yaml.Read.maxDepth - 1) value
  | _ => failure

end Expand

/-- How many replacements there may be for each part of a document. -/
def replacementsPerPart : Nat := 100

/-- Read the definitions in a YAML document. -/
def ofYaml? (text : String) : Option Definitions := do
  let root ← Yaml.Node.ofText? text
  (Expand.readDocument root.anchored.reverse root).run' (replacementsPerPart * root.size)

end DataGrammar.Document
