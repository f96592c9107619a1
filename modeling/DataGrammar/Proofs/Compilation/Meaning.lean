import DataGrammar.Proofs.Compilation.Inversion
import DataGrammar.Proofs.Matching.Lockstep

/-!
# Compiling keeps the meaning

A grammar has a meaning before it is compiled: `Description.interpret` runs a description as it
stands, and a reference in it is looked up by name when it is followed. What cannot happen in a
grammar that compiles, such as a name without a rule, is an error of its own here.

* `Description.step_compile`: the node of a description runs like the description.
* `Description.references_compile`: the references of the node point, one by one, at the rules
  that the description names.
* `Parser.run_compile`: a compiled grammar runs like its definitions.
-/

namespace DataGrammar

namespace Description

/-- The key of its value in the sequence or choice around it. -/
def key : Description → Option String
  | .pattern _ => none
  | .reference ref => ref.key
  | .sequence _ _ name _ | .choice _ _ name _ | .repetition _ _ _ _ name => name

/-- Whether its value replaces that of the sequence around it. -/
def collapse : Description → Bool
  | .reference ref => ref.collapse
  | _ => false

/-- Match the text of a pattern at the cursor. -/
def matchPattern (source : String) : Step (Except Diagnostic) := fun c =>
  match Pattern.compile source with
  | .ok p => Node.matchTerminal p c
  | .error refusal => .error (Diagnostic.ofCause (.invalidPattern "" source refusal.message))

mutual

/-- Run a description, given how to run a rule of a name. -/
def interpret (call : String → Step (Except Diagnostic)) :
    Description → Step (Except Diagnostic)
  | .pattern source => matchPattern source
  | .reference ref => call ref.target
  | .sequence parts separator _ default =>
    Step.sequence (interpretOption call separator) (interpretParts call parts) default
  | .choice branches nesting _ default =>
    Step.choice nesting (interpretParts call branches) default
  | .repetition item separator least most _ =>
    Step.repetition (item.interpret call) (interpretOption call separator) least most

/-- Descriptions as parts. -/
def interpretParts (call : String → Step (Except Diagnostic)) :
    List Description → List (Part (Except Diagnostic))
  | [] => []
  | d :: ds => ⟨d.key, d.collapse, d.interpret call⟩ :: interpretParts call ds

/-- Run a separator. -/
def interpretOption (call : String → Step (Except Diagnostic)) :
    Option Description → Option (Step (Except Diagnostic))
  | none => none
  | some d => some (d.interpret call)

end

mutual

/-- The names that are referred to, in reading order. -/
def targets : Description → List String
  | .pattern _ => []
  | .reference ref => [ref.target]
  | .sequence parts separator _ _ => targetsList parts ++ targetsOption separator
  | .choice branches _ _ _ => targetsList branches
  | .repetition item separator _ _ _ => item.targets ++ targetsOption separator

/-- The names that some descriptions refer to. -/
def targetsList : List Description → List String
  | [] => []
  | d :: ds => d.targets ++ targetsList ds

/-- The names that a separator refers to. -/
def targetsOption : Option Description → List String
  | none => []
  | some d => d.targets

end

end Description

namespace Node

variable {n : Nat}

mutual

/-- The numbers of rules that are referred to, in reading order. -/
def references : Node n → List (Fin n)
  | .terminal _ => []
  | .reference rule _ _ => [rule]
  | .sequence parts separator _ _ => referencesList parts ++ referencesOption separator
  | .choice branches _ _ _ => referencesList branches
  | .repetition item separator _ _ _ => item.references ++ referencesOption separator

/-- The rules that some nodes refer to. -/
def referencesList : List (Node n) → List (Fin n)
  | [] => []
  | node :: nodes => node.references ++ referencesList nodes

/-- The rules that a separator refers to. -/
def referencesOption : Option (Node n) → List (Fin n)
  | none => []
  | some node => node.references

end

end Node

namespace Definitions

/-- Run a rule by its name, with `depth` references left of `limit`. -/
def call (d : Definitions) (limit : Nat) :
    (depth : Nat) → (name : String) → Step (Except Diagnostic)
  | 0, _ => fun _ => .error (Diagnostic.ofCause (.recursionLimit limit))
  | depth + 1, name =>
    match d.get? name with
    | none => fun _ => .error (Diagnostic.ofCause (.unknownRule name))
    | some description => description.interpret (d.call limit depth)

/-- Match a rule at the start of an input, without compiling anything. -/
def run (d : Definitions) (maxDepth : Nat) (rule input : String) : Except Diagnostic Outcome :=
  match d.get? rule with
  | none => .error (Diagnostic.ofCause (.unknownRule rule))
  | some description =>
    (description.interpret (d.call maxDepth maxDepth) (.start input)).map .ofAttempt

end Definitions

namespace Description

variable {rule : String} {names : List String}

theorem name_compile {d : Description} {node : Node names.length}
    (h : d.compile rule names = .ok node) : node.name = d.key ∧ node.collapse = d.collapse := by
  cases d with
  | pattern source =>
    obtain ⟨p, -, rfl⟩ := compile_pattern_iff.1 h
    exact ⟨rfl, rfl⟩
  | reference ref =>
    obtain ⟨-, i, -, rfl⟩ := compile_reference_iff.1 h
    exact ⟨rfl, rfl⟩
  | sequence parts separator name default =>
    obtain ⟨nodes, s, -, -, rfl⟩ := compile_sequence_iff.1 h
    exact ⟨rfl, rfl⟩
  | choice branches nesting name default =>
    obtain ⟨nodes, -, rfl⟩ := compile_choice_iff.1 h
    exact ⟨rfl, rfl⟩
  | repetition item separator least most name =>
    obtain ⟨i, s, -, -, rfl⟩ := compile_repetition_iff.1 h
    exact ⟨rfl, rfl⟩

section

variable {call : Fin names.length → Step (Except Diagnostic)}
  {call' : String → Step (Except Diagnostic)}

mutual

/-- **The node of a description runs like the description**, if its rules run like the rules of
their names. -/
theorem step_compile (hcall : ∀ i, call i = call' (names.get i)) {d : Description}
    {node : Node names.length} (h : d.compile rule names = .ok node) :
    node.step Node.matchTerminal call = d.interpret call' := by
  cases d with
  | pattern source =>
    obtain ⟨p, hp, rfl⟩ := compile_pattern_iff.1 h
    funext c
    simp only [Node.step, interpret, matchPattern, hp]
  | reference ref =>
    obtain ⟨-, i, hi, rfl⟩ := compile_reference_iff.1 h
    simp only [Node.step, interpret, hcall, getElem_of_indexOf? hi]
  | sequence parts separator name default =>
    obtain ⟨nodes, s, hn, hs, rfl⟩ := compile_sequence_iff.1 h
    simp only [Node.step, interpret, parts_compileList hcall hn, stepOption_compileOption hcall hs]
  | choice branches nesting name default =>
    obtain ⟨nodes, hn, rfl⟩ := compile_choice_iff.1 h
    simp only [Node.step, interpret, parts_compileList hcall hn]
  | repetition item separator least most name =>
    obtain ⟨i, s, hi, hs, rfl⟩ := compile_repetition_iff.1 h
    simp only [Node.step, interpret, step_compile hcall hi, stepOption_compileOption hcall hs]

theorem parts_compileList (hcall : ∀ i, call i = call' (names.get i)) {ds : List Description}
    {nodes : List (Node names.length)} (h : compileList rule names ds = .ok nodes) :
    Node.parts Node.matchTerminal call nodes = interpretParts call' ds := by
  cases ds with
  | nil =>
    cases compileList_nil_iff.1 h
    rfl
  | cons d ds =>
    obtain ⟨node, rest, hn, hr, rfl⟩ := compileList_cons_iff.1 h
    obtain ⟨hname, hcollapse⟩ := name_compile hn
    simp only [Node.parts, interpretParts, hname, hcollapse, step_compile hcall hn,
      parts_compileList hcall hr]

theorem stepOption_compileOption (hcall : ∀ i, call i = call' (names.get i))
    {separator : Option Description} {s : Option (Node names.length)}
    (h : compileOption rule names separator = .ok s) :
    Node.stepOption Node.matchTerminal call s = interpretOption call' separator := by
  cases separator with
  | none =>
    cases compileOption_none_iff.1 h
    rfl
  | some d =>
    obtain ⟨node, hn, rfl⟩ := compileOption_some_iff.1 h
    simp only [Node.stepOption, interpretOption, step_compile hcall hn]

end

end

mutual

/-- **The references of the node are those of the description**, each by its number. -/
theorem references_compile {d : Description} {node : Node names.length}
    (h : d.compile rule names = .ok node) :
    node.references.map (fun i => names.get i) = d.targets := by
  cases d with
  | pattern source =>
    obtain ⟨p, -, rfl⟩ := compile_pattern_iff.1 h
    rfl
  | reference ref =>
    obtain ⟨-, i, hi, rfl⟩ := compile_reference_iff.1 h
    simp only [Node.references, targets, List.map_cons, List.map_nil, getElem_of_indexOf? hi]
  | sequence parts separator name default =>
    obtain ⟨nodes, s, hn, hs, rfl⟩ := compile_sequence_iff.1 h
    simp only [Node.references, targets, List.map_append, references_compileList hn,
      references_compileOption hs]
  | choice branches nesting name default =>
    obtain ⟨nodes, hn, rfl⟩ := compile_choice_iff.1 h
    simp only [Node.references, targets, references_compileList hn]
  | repetition item separator least most name =>
    obtain ⟨i, s, hi, hs, rfl⟩ := compile_repetition_iff.1 h
    simp only [Node.references, targets, List.map_append, references_compile hi,
      references_compileOption hs]

theorem references_compileList {ds : List Description} {nodes : List (Node names.length)}
    (h : compileList rule names ds = .ok nodes) :
    (Node.referencesList nodes).map (fun i => names.get i) = targetsList ds := by
  cases ds with
  | nil =>
    cases compileList_nil_iff.1 h
    rfl
  | cons d ds =>
    obtain ⟨node, rest, hn, hr, rfl⟩ := compileList_cons_iff.1 h
    simp only [Node.referencesList, targetsList, List.map_append, references_compile hn,
      references_compileList hr]

theorem references_compileOption {separator : Option Description}
    {s : Option (Node names.length)} (h : compileOption rule names separator = .ok s) :
    (Node.referencesOption s).map (fun i => names.get i) = targetsOption separator := by
  cases separator with
  | none =>
    cases compileOption_none_iff.1 h
    rfl
  | some d =>
    obtain ⟨node, hn, rfl⟩ := compileOption_some_iff.1 h
    simp only [Node.referencesOption, targetsOption, references_compile hn]

end

end Description

/-! ### Runs -/

namespace Parser

/-- **Following a number is following the name.** -/
theorem agree_call_compile {d : Definitions} {maxDepth : Nat}
    {rules : Vector (String × Node d.names.length) d.names.length}
    (h : ∀ i : Fin d.names.length, ∃ description, d.get? (d.names.get i) = some description ∧
      description.compile (d.names.get i) d.names = .ok (node ⟨_, rules, maxDepth⟩ i))
    (text : String) (depth : Nat) (i : Fin d.names.length) :
    Step.Agree (.aborting (Diagnostic.ofCause (.recursionLimit maxDepth))) text
      (call ⟨_, rules, maxDepth⟩ depth i) (d.call maxDepth depth (d.names.get i)) := by
  induction depth generalizing i with
  | zero => exact fun c _ => rfl
  | succ depth ih =>
    obtain ⟨description, hd, hc⟩ := h i
    intro c hcursor
    simp only [Definitions.call, hd]
    rw [← Description.step_compile (fun j => rfl) hc]
    exact Node.agree_step_of_call ih _ c hcursor

/-- **Compiling keeps the meaning.** A compiled grammar gives the outcome, or the error, that
running its definitions by name gives, for every rule and input; and every reference of a
compiled rule is the number of the rule that the description names at that place. -/
theorem run_compile {d : Definitions} {maxDepth : Nat} {p : Parser}
    (h : Parser.compile d maxDepth = .ok p) :
    (∀ rule input, p.run rule input = d.run maxDepth rule input) ∧
    (∀ i : Fin p.size, ∃ description, d.get? (p.name i) = some description ∧
      (p.node i).references.map p.name = description.targets) := by
  obtain ⟨rules, rfl, hrules⟩ := compile_eq_ok h
  constructor
  · intro rule input
    unfold run Definitions.run
    cases hi : find? ⟨d.names.length, rules, maxDepth⟩ rule with
    | none =>
      have hn : d.get? rule = none := by
        refine Keyed.find?_eq_none_iff.2 fun hmem => ?_
        obtain ⟨i, hi'⟩ := List.get_of_mem hmem
        exact find?_eq_none_iff.1 hi i ((hrules i).1.trans hi')
      simp only [hn]
    | some i =>
      have hname : d.names.get i = rule := (hrules i).1.symm.trans (name_of_find? hi)
      -- the rule is run like a reference to it, with one reference more
      have hagree := agree_call_compile (fun j => (hrules j).2) input (maxDepth + 1) i
        (.start input) (Cursor.at_start input)
      obtain ⟨description, hd, -⟩ := (hrules i).2
      rw [hname] at hd hagree
      simp only [call, Definitions.call, hd, Lockstep.aborting] at hagree ⊢
      split at hagree
      · next a ha =>
        obtain ⟨-, hinterpret⟩ := hagree
        rw [hinterpret, ha]
        rfl
      · next ha =>
        rw [hagree, ha]
        rfl
  · intro i
    obtain ⟨hname, description, hd, hc⟩ := hrules i
    refine ⟨description, hname ▸ hd, ?_⟩
    rw [← Description.references_compile hc]
    exact List.map_congr_left fun j _ => (hrules j).1

theorem run_compile_sample :
    Parser.compile .sample 3 = .ok sample ∧
    sample.run "expr" "((éx))" = Definitions.sample.run 3 "expr" "((éx))" ∧
    Definitions.sample.run 3 "expr" "((éx))" = .ok ⟨true, 7, .text "x"⟩ ∧
    sample.run "loop" "x" = Definitions.sample.run 3 "loop" "x" ∧
    Definitions.sample.run 3 "loop" "x" = .error (Cause.recursionLimit 3) := by
  have h := run_compile compile_sample
  exact ⟨compile_sample, h.1 "expr" "((éx))", by decide +kernel, h.1 "loop" "x",
    by decide +kernel⟩

end Parser
end DataGrammar
