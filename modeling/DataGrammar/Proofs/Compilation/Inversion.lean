import DataGrammar.Parser
import Mathlib.Tactic.Common

/-!
# What compiling gives

When a description compiles, its node has the same shape: parts for parts, a separator for a
separator, and every other field as it was. The lemmas of this module say so construct by
construct; nothing else has to look into `Description.compile`.

* `Description.compile_sequence_iff` and its siblings: what a compiled construct is made of;
* `Description.getElem_of_indexOf?`: a reference is compiled to the number of its target;
* `Parser.compile_eq_ok`: a compiled parser has one rule for each name, in the order of the
  names, with the node of its description.
-/

namespace DataGrammar

theorem bind_eq_ok_iff {ε α β : Type} {x : Except ε α} {f : α → Except ε β} {b : β} :
    x >>= f = .ok b ↔ ∃ a, x = .ok a ∧ f a = .ok b := by
  cases x with
  | error e => exact ⟨nofun, nofun⟩
  | ok a => exact ⟨fun h => ⟨a, rfl, h⟩, fun ⟨_, ha, h⟩ => by cases ha; exact h⟩

/-! ### Definitions by name -/

namespace Keyed

variable {α : Type} {key : String} {value : α} {entries : List (String × α)}

/-- A key occurs once, so its entry is the one that is found. -/
theorem find?_of_mem (ha : Ascending entries) (h : (key, value) ∈ entries) :
    find? key entries = some value := by
  induction entries with
  | nil => cases h
  | cons head rest ih =>
    obtain ⟨k, v⟩ := head
    obtain ⟨hk, hr⟩ := List.pairwise_cons.1 ha
    rw [find?_cons]
    rcases List.mem_cons.1 h with he | hm
    · cases he
      rw [if_pos rfl]
    · have hne : key ≠ k := fun he => String.lt_irrefl k (he ▸ hk _ hm)
      rw [if_neg hne]
      exact ih hr hm

theorem find?_eq_none_iff : find? key entries = none ↔ key ∉ entries.map Prod.fst := by
  induction entries with
  | nil => simp
  | cons head rest ih =>
    obtain ⟨k, v⟩ := head
    rw [find?_cons, List.map_cons, List.mem_cons, not_or]
    split
    · next he => simp [he]
    · next he => simp [ih, he]

end Keyed

namespace Description

variable {rule : String} {names : List String}

/-! ### Nodes -/

theorem getElem_of_indexOf? {name : String} {names : List String} {i : Fin names.length}
    (h : indexOf? name names = some i) : names.get i = name := by
  induction names with
  | nil => cases h
  | cons n names ih =>
    simp only [indexOf?] at h
    split at h
    · next he =>
      cases h
      exact he.symm
    · obtain ⟨j, hj, rfl⟩ := Option.map_eq_some_iff.1 h
      exact ih hj

theorem compile_pattern_iff {source : String} {node : Node names.length} :
    (pattern source).compile rule names = .ok node ↔
      ∃ p, Pattern.compile source = .ok p ∧ node = .terminal p := by
  simp only [compile]
  cases Pattern.compile source with
  | error refusal => simp
  | ok p => simp [eq_comm]

theorem compile_reference_iff {ref : Reference} {node : Node names.length} :
    (reference ref).compile rule names = .ok node ↔
      ref.target ≠ "" ∧ ∃ i, indexOf? ref.target names = some i ∧
        node = .reference i ref.key ref.collapse := by
  simp only [compile, compileReference]
  split
  · next he => simp [he]
  · next he =>
    split
    · next hi => simp [hi]
    · next i hi => simp [hi, he, eq_comm]

theorem compile_sequence_iff {parts : List Description} {separator : Option Description}
    {name : Option String} {default : Option Value} {node : Node names.length} :
    (sequence parts separator name default).compile rule names = .ok node ↔
      ∃ nodes s, compileList rule names parts = .ok nodes ∧
        compileOption rule names separator = .ok s ∧ node = .sequence nodes s name default := by
  simp only [compile, bind_eq_ok_iff]
  constructor
  · rintro ⟨nodes, hn, s, hs, h⟩
    cases h
    exact ⟨nodes, s, hn, hs, rfl⟩
  · rintro ⟨nodes, s, hn, hs, rfl⟩
    exact ⟨nodes, hn, s, hs, rfl⟩

theorem compile_choice_iff {branches : List Description} {nesting : Nesting}
    {name : Option String} {default : Option Value} {node : Node names.length} :
    (choice branches nesting name default).compile rule names = .ok node ↔
      ∃ nodes, compileList rule names branches = .ok nodes ∧
        node = .choice nodes nesting name default := by
  simp only [compile, bind_eq_ok_iff]
  constructor
  · rintro ⟨nodes, hn, h⟩
    cases h
    exact ⟨nodes, hn, rfl⟩
  · rintro ⟨nodes, hn, rfl⟩
    exact ⟨nodes, hn, rfl⟩

theorem compile_repetition_iff {item : Description} {separator : Option Description}
    {least : Nat} {most : Option Nat} {name : Option String} {node : Node names.length} :
    (repetition item separator least most name).compile rule names = .ok node ↔
      ∃ i s, item.compile rule names = .ok i ∧ compileOption rule names separator = .ok s ∧
        node = .repetition i s least most name := by
  simp only [compile, bind_eq_ok_iff]
  constructor
  · rintro ⟨i, hi, s, hs, h⟩
    cases h
    exact ⟨i, s, hi, hs, rfl⟩
  · rintro ⟨i, s, hi, hs, rfl⟩
    exact ⟨i, hi, s, hs, rfl⟩

@[simp] theorem compileList_nil_iff {nodes : List (Node names.length)} :
    compileList rule names [] = .ok nodes ↔ nodes = [] := by
  simp [compileList, eq_comm]

theorem compileList_cons_iff {d : Description} {ds : List Description}
    {nodes : List (Node names.length)} :
    compileList rule names (d :: ds) = .ok nodes ↔
      ∃ node rest, d.compile rule names = .ok node ∧ compileList rule names ds = .ok rest ∧
        nodes = node :: rest := by
  simp only [compileList, bind_eq_ok_iff]
  constructor
  · rintro ⟨node, hn, rest, hr, h⟩
    cases h
    exact ⟨node, rest, hn, hr, rfl⟩
  · rintro ⟨node, rest, hn, hr, rfl⟩
    exact ⟨node, hn, rest, hr, rfl⟩

@[simp] theorem compileOption_none_iff {s : Option (Node names.length)} :
    compileOption rule names none = .ok s ↔ s = none := by
  simp [compileOption, eq_comm]

theorem compileOption_some_iff {d : Description} {s : Option (Node names.length)} :
    compileOption rule names (some d) = .ok s ↔
      ∃ node, d.compile rule names = .ok node ∧ s = some node := by
  simp only [compileOption, bind_eq_ok_iff]
  constructor
  · rintro ⟨node, hn, h⟩
    cases h
    exact ⟨node, hn, rfl⟩
  · rintro ⟨node, hn, rfl⟩
    exact ⟨node, hn, rfl⟩

end Description

/-! ### Parsers -/

namespace Parser

/-- Every rule is compiled under its own name. -/
theorem getElem_of_compileRules {names : List String} {rules : List (String × Description)}
    {nodes : Vector (String × Node names.length) rules.length}
    (h : compileRules names rules = .ok nodes) (i : Nat) (hi : i < rules.length) :
    nodes[i].1 = rules[i].1 ∧ rules[i].2.compile rules[i].1 names = .ok nodes[i].2 := by
  induction rules generalizing i with
  | nil => cases hi
  | cons rule rules ih =>
    obtain ⟨name, d⟩ := rule
    simp only [compileRules, bind_eq_ok_iff] at h
    obtain ⟨node, hnode, rest, hrest, h⟩ := h
    cases h
    cases i with
    | zero => simpa using hnode
    | succ i =>
      have hi' : i < rules.length := by simpa using hi
      simpa [Nat.add_comm 1] using ih hrest i hi'

/-- **A compiled parser has the rules of its definitions**, in the same order. -/
theorem compile_eq_ok {d : Definitions} {maxDepth : Nat} {p : Parser}
    (h : Parser.compile d maxDepth = .ok p) :
    ∃ rules : Vector (String × Node d.names.length) d.names.length,
      p = ⟨d.names.length, rules, maxDepth⟩ ∧ ∀ i : Fin d.names.length,
        name ⟨_, rules, maxDepth⟩ i = d.names.get i ∧
        ∃ description, d.get? (d.names.get i) = some description ∧
          description.compile (d.names.get i) d.names = .ok (node ⟨_, rules, maxDepth⟩ i) := by
  obtain ⟨rules, hrules, h⟩ := bind_eq_ok_iff.1 h
  cases h
  refine ⟨_, rfl, fun i => ?_⟩
  have hi : i < d.rules.length := by simpa [Definitions.names] using i.isLt
  obtain ⟨hname, hnode⟩ := getElem_of_compileRules hrules i hi
  have hn : d.names.get i = d.rules[(i : Nat)].1 := List.getElem_map ..
  rw [hn]
  refine ⟨by simpa [name] using hname, d.rules[(i : Nat)].2, ?_, by simpa [node] using hnode⟩
  exact Keyed.find?_of_mem d.ascending (List.getElem_mem hi)

/-- A rule that is found has the name. -/
theorem name_of_find? {p : Parser} {name : String} {i : Fin p.size}
    (h : p.find? name = some i) : p.name i = name := by
  simpa using List.find?_some h

theorem find?_eq_none_iff {p : Parser} {name : String} :
    p.find? name = none ↔ ∀ i : Fin p.size, p.name i ≠ name := by
  simp [find?]

end Parser

/-! ### A sample -/

/-- The letters `x` and `é` in nested parentheses, and a rule that is nothing but itself. -/
def Definitions.sample : Definitions := .ofList [
  ("expr", .choice [.series [.pattern "\\(", .ref "expr::", .pattern "\\)"], .pattern "(x|é)+"]
    .none none none),
  ("loop", .ref "loop")]

namespace Parser

/-- The sample, compiled. -/
def sample : Parser := (Parser.compile .sample 3).toOption.getD ⟨0, #v[], 3⟩

theorem compile_sample : Parser.compile .sample 3 = .ok sample := by
  have hok : (Parser.compile .sample 3).toOption.isSome := by decide +kernel
  unfold sample
  cases h : Parser.compile .sample 3 with
  | error e => simp [h, Except.toOption] at hok
  | ok p => rfl

/-- The number of the rule `expr`. -/
def sampleRule : Fin sample.size := (sample.find? "expr").get (by decide +kernel)

end Parser
end DataGrammar
