import DataGrammar.Definitions
import DataGrammar.Matching.Compile
/-!
# Parsers

A parser is a compiled grammar: a registry of rules, ascending by name, that never changes.

* `Parser.compile` compiles definitions, or reports their first defect: rules ascending by name,
  the parts of a rule in reading order, and a separator after what it separates.
* `Parser.run` matches a rule against an input. References count towards the greatest depth; a
  run that needs more is aborted.
-/

namespace DataGrammar

/-- How many references may be active at once, unless a parser is told otherwise. -/
def defaultMaxDepth : Nat := 1000

/-- A compiled grammar. -/
structure Parser where
  /-- How many rules there are. -/
  size : Nat
  /-- The rules, ascending by name. -/
  rules : Vector (String × Node size) size
  /-- How many references may be active at once. -/
  maxDepth : Nat

/-- What a run produced. -/
structure Outcome where
  /-- Whether the rule matched. -/
  success : Bool
  /-- The bytes up to which the grammar matched. -/
  position : Nat
  /-- The result. -/
  result : Value
  deriving DecidableEq, Repr

/-- The outcome of a run that ended with an attempt. -/
def Outcome.ofAttempt (a : Attempt) : Outcome := ⟨a.success, a.cursor.offset, a.value⟩

/-- Whether a run matched all of its input. -/
def Outcome.isComplete (o : Outcome) (input : String) : Bool :=
  o.success && o.position == input.utf8ByteSize

namespace Parser

/-- Compile rules in order. -/
def compileRules (names : List String) : (rules : List (String × Description)) →
    Except Diagnostic (Vector (String × Node names.length) rules.length)
  | [] => .ok #v[]
  | (name, d) :: rules => do
    let node ← d.compile name names
    let nodes ← compileRules names rules
    return (#v[(name, node)] ++ nodes).cast (by simp [Nat.add_comm])

/-- Compile definitions. -/
def compile (d : Definitions) (maxDepth : Nat) : Except Diagnostic Parser := do
  let rules ← compileRules d.names d.rules
  return ⟨d.names.length, rules.cast (by simp [Definitions.names]), maxDepth⟩

/-- The rule names in the order of the registry. -/
def names (p : Parser) : List String := p.rules.toList.map Prod.fst

/-- The name of a rule. -/
def name (p : Parser) (rule : Fin p.size) : String := p.rules[rule].1

/-- The node of a rule. -/
def node (p : Parser) (rule : Fin p.size) : Node p.size := p.rules[rule].2

/-- The number of a rule. -/
def find? (p : Parser) (name : String) : Option (Fin p.size) :=
  (List.finRange p.size).find? fun rule => p.name rule = name

/-- Whether there is a rule of a name. -/
def hasRule (p : Parser) (name : String) : Bool := (p.find? name).isSome

/-- Run a rule by reference, with `depth` references left; `none` if the run is aborted. -/
def call (p : Parser) : (depth : Nat) → Fin p.size → Step Option
  | 0, _ => fun _ => none
  | depth + 1, rule => (p.node rule).step Node.matchTerminal (p.call depth)

/-- Match a rule at the start of an input. -/
def run (p : Parser) (rule input : String) : Except Diagnostic Outcome :=
  match p.find? rule with
  | none => .error (Cause.unknownRule rule)
  | some index =>
    match (p.node index).step Node.matchTerminal (p.call p.maxDepth) (.start input) with
    | none => .error (Cause.recursionLimit p.maxDepth)
    | some a => .ok (.ofAttempt a)

theorem run_eq_ok_iff {p : Parser} {rule input : String} {o : Outcome} :
    p.run rule input = .ok o ↔ ∃ index a, p.find? rule = some index ∧
      (p.node index).step Node.matchTerminal (p.call p.maxDepth) (.start input) = some a ∧
      o = .ofAttempt a := by
  unfold run
  constructor
  · intro h
    split at h
    · cases h
    · next index hi =>
      split at h
      · cases h
      · next a ha => exact ⟨index, a, hi, ha, by cases h; rfl⟩
  · rintro ⟨index, a, hi, ha, rfl⟩
    simp only [hi, ha]

/-- A run is aborted if the rule is there and its node is aborted. -/
theorem run_eq_limit_iff {p : Parser} {rule input : String} :
    p.run rule input = .error (Cause.recursionLimit p.maxDepth) ↔
      ∃ index, p.find? rule = some index ∧
        (p.node index).step Node.matchTerminal (p.call p.maxDepth) (.start input) = none := by
  unfold run
  constructor
  · intro h
    split at h
    · simp [Diagnostic.ofCause] at h
    · next index hi =>
      split at h
      · next ha => exact ⟨index, hi, ha⟩
      · cases h
  · rintro ⟨index, hi, ha⟩
    simp only [hi, ha]

end Parser
end DataGrammar
