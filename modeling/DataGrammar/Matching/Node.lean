import DataGrammar.Matching.Attempt
import DataGrammar.Pattern
/-!
# Nodes

A node is a description made executable: its patterns are compiled, and its references are
numbers of rules, each of which exists. `Node.step` runs a node, given how to match patterns and
how to run the rules.
-/

namespace DataGrammar

/-- An executable construct of a grammar with `n` rules. -/
inductive Node (n : Nat) where
  | terminal (pattern : Pattern)
  | reference (rule : Fin n) (key : Option String) (collapse : Bool)
  | sequence (parts : List (Node n)) (separator : Option (Node n))
      (name : Option String) (default : Option Value)
  | choice (branches : List (Node n)) (nesting : Nesting)
      (name : Option String) (default : Option Value)
  | repetition (item : Node n) (separator : Option (Node n))
      (least : Nat) (most : Option Nat) (name : Option String)

namespace Node

variable {n : Nat} {m : Type → Type} [Monad m]

/-- The key of its value in the sequence or choice around it. -/
def name : Node n → Option String
  | .terminal _ => none
  | .reference _ key _ => key
  | .sequence _ _ name _ | .choice _ _ name _ | .repetition _ _ _ _ name => name

/-- Whether its value replaces that of the sequence around it. -/
def collapse : Node n → Bool
  | .reference _ _ collapse => collapse
  | _ => false

/-- Match a pattern at the cursor. -/
def matchTerminal (pattern : Pattern) : Step m := fun c =>
  match pattern.matchAt? c with
  | some found => pure ⟨true, c.advance found.length, .text (pattern.textOf c found)⟩
  | none => pure ⟨false, c, .null⟩

mutual

/-- Run a node, given how to match patterns and how to run the rules. -/
def step (terminal : Pattern → Step m) (call : Fin n → Step m) : Node n → Step m
  | .terminal pattern => terminal pattern
  | .reference rule _ _ => call rule
  | .sequence nodes separator _ default =>
    Step.sequence (stepOption terminal call separator) (parts terminal call nodes) default
  | .choice nodes nesting _ default => Step.choice nesting (parts terminal call nodes) default
  | .repetition item separator least most _ =>
    Step.repetition (item.step terminal call) (stepOption terminal call separator) least most

/-- Nodes as parts. -/
def parts (terminal : Pattern → Step m) (call : Fin n → Step m) :
    List (Node n) → List (Part m)
  | [] => []
  | node :: nodes =>
    ⟨node.name, node.collapse, node.step terminal call⟩ :: parts terminal call nodes

/-- Run a separator. -/
def stepOption (terminal : Pattern → Step m) (call : Fin n → Step m) :
    Option (Node n) → Option (Step m)
  | none => none
  | some node => some (node.step terminal call)

end

end Node
end DataGrammar
