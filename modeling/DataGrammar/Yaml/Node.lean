import DataGrammar.Yaml.Token
/-!
# Nodes of YAML

A document is a tree of nodes. An alias stands for the node with its anchor; anchors are numbered
in the order of the text.

An anchor gets the number of names that came before it, without repetitions. So when a name is
given again the number may be that of an anchor before or after it, and the last node with a
number is the one that aliases with this number stand for.
-/

namespace DataGrammar.Yaml

/-- A tag in full. -/
abbrev Tag := List UInt8

/-- What a node bears. -/
structure Properties where
  anchor : Option Nat
  tag : Option Tag
  deriving DecidableEq, Repr

/-- A part of a document. -/
inductive Node where
  /-- An alias: the node with this anchor stands here too. -/
  | reference (anchor : Nat)
  | scalar (properties : Properties) (style : ScalarStyle) (text : String)
  | list (properties : Properties) (items : List Node)
  | map (properties : Properties) (entries : List (Node × Node))
  deriving Repr, Inhabited

namespace Node

/-- A node that is not written. -/
def absent (p : Properties) : Node := .scalar p .plain ""

/-- A node that is not written and bears nothing. -/
def empty : Node := .absent ⟨none, none⟩

mutual

/-- The nodes with anchors, in the order of the text. -/
def anchored : Node → List (Nat × Node)
  | .reference _ => []
  | .scalar p style text => (p.anchor.map (·, .scalar p style text)).toList
  | .list p items => (p.anchor.map (·, .list p items)).toList ++ anchoredItems items
  | .map p entries => (p.anchor.map (·, .map p entries)).toList ++ anchoredEntries entries

/-- The nodes with anchors in items. -/
def anchoredItems : List Node → List (Nat × Node)
  | [] => []
  | n :: rest => n.anchored ++ anchoredItems rest

/-- The nodes with anchors in entries. -/
def anchoredEntries : List (Node × Node) → List (Nat × Node)
  | [] => []
  | (key, value) :: rest => key.anchored ++ (value.anchored ++ anchoredEntries rest)

end

mutual

/-- The size of a node: a collection counts for its start and its end. -/
def size : Node → Nat
  | .reference _ => 1
  | .scalar .. => 1
  | .list _ items => sizeItems items + 2
  | .map _ entries => sizeEntries entries + 2

/-- The size of items. -/
def sizeItems : List Node → Nat
  | [] => 0
  | n :: rest => n.size + sizeItems rest

/-- The size of entries. -/
def sizeEntries : List (Node × Node) → Nat
  | [] => 0
  | (key, value) :: rest => key.size + value.size + sizeEntries rest

end

end Node
end DataGrammar.Yaml
