import DataGrammar.Proofs.Compilation.Meaning

/-!
# Runs and the rules they reach

A compiled grammar runs a rule like the interpreter of its definitions calls the rule by its name
(`Parser.run_eq_call`). The interpreter follows names only, so of a grammar it sees no more than
the rules that can be reached from the rule that is run, and numbers play no part.

* `Definitions.Reaches`: the rules that a rule refers to, and so on;
* `Description.interpret_congr`: a description runs in the same way if its targets do;
* `Definitions.call_congr`: so does a rule, if it and all rules that it reaches have the same
  descriptions;
* `Parser.run_congr_of_reaches`: the run of a compiled grammar depends on nothing else.
-/

namespace DataGrammar

/-- **A compiled grammar runs like a call by name.** The rule that is run is not counted as a
reference, so the call has one reference more. -/
theorem Parser.run_eq_call {d : Definitions} {maxDepth : Nat} {p : Parser}
    (h : Parser.compile d maxDepth = .ok p) (rule input : String) :
    p.run rule input = (d.call maxDepth (maxDepth + 1) rule (.start input)).map .ofAttempt := by
  obtain ⟨rules, rfl, hrules⟩ := compile_eq_ok h
  cases hi : find? ⟨d.names.length, rules, maxDepth⟩ rule with
  | none =>
    have hn : d.get? rule = none := by
      refine Keyed.find?_eq_none_iff.2 fun hmem => ?_
      obtain ⟨i, hname⟩ := List.get_of_mem hmem
      exact find?_eq_none_iff.1 hi i ((hrules i).1.trans hname)
    simp only [run, hi, Definitions.call, hn]
    rfl
  | some i =>
    have hagree := agree_call_compile (fun j => (hrules j).2) input (maxDepth + 1) i
      (.start input) (Cursor.at_start input)
    rw [← (hrules i).1, name_of_find? hi] at hagree
    simp only [run, hi]
    simp only [Lockstep.aborting, Parser.call] at hagree
    split at hagree
    · next a ha =>
      rw [ha, hagree.2]
      rfl
    · next ha =>
      rw [ha, hagree]
      rfl

namespace Description

variable {call call' : String → Step (Except Diagnostic)}

mutual

/-- **A description runs in the same way** if the rules that it refers to do. -/
theorem interpret_congr (d : Description) (h : ∀ target ∈ d.targets, call target = call' target) :
    d.interpret call = d.interpret call' := by
  cases d with
  | pattern source => rfl
  | reference ref => exact h ref.target (List.mem_singleton.2 rfl)
  | sequence parts separator name default =>
    obtain ⟨hparts, hseparator⟩ := List.forall_mem_append.1 h
    simp only [interpret, interpretParts_congr parts hparts,
      interpretOption_congr separator hseparator]
  | choice branches nesting name default => simp only [interpret, interpretParts_congr branches h]
  | repetition item separator least most name =>
    obtain ⟨hitem, hseparator⟩ := List.forall_mem_append.1 h
    simp only [interpret, interpret_congr item hitem, interpretOption_congr separator hseparator]

theorem interpretParts_congr (ds : List Description)
    (h : ∀ target ∈ targetsList ds, call target = call' target) :
    interpretParts call ds = interpretParts call' ds := by
  cases ds with
  | nil => rfl
  | cons d ds =>
    obtain ⟨hd, hds⟩ := List.forall_mem_append.1 h
    simp only [interpretParts, interpret_congr d hd, interpretParts_congr ds hds]

theorem interpretOption_congr (separator : Option Description)
    (h : ∀ target ∈ targetsOption separator, call target = call' target) :
    interpretOption call separator = interpretOption call' separator := by
  cases separator with
  | none => rfl
  | some d => simp only [interpretOption, interpret_congr d h]

end

end Description

namespace Definitions

/-- The rules that a run of the rule `start` can come to: the rule itself, and what any of them
refers to in its parts, branches, items and separators. -/
inductive Reaches (d : Definitions) (start : String) : String → Prop
  | self : d.Reaches start start
  | step {name target : String} {description : Description} (h : d.Reaches start name)
    (hd : d.get? name = some description) (ht : target ∈ description.targets) :
    d.Reaches start target

/-- **Calls of a rule are the same** where the rule and those that it reaches are the same. -/
theorem call_congr {d d' : Definitions} {start : String}
    (h : ∀ name, d.Reaches start name → d.get? name = d'.get? name) (limit depth : Nat)
    {name : String} (hname : d.Reaches start name) :
    d.call limit depth name = d'.call limit depth name := by
  induction depth generalizing name with
  | zero => rfl
  | succ depth ih =>
    simp only [call, ← h name hname]
    cases hd : d.get? name with
    | none => rfl
    | some description =>
      exact description.interpret_congr fun target ht => ih (hname.step hd ht)

end Definitions

namespace Parser

/-- **A run depends only on the rules that it reaches.** Two compiled grammars with one limit give
the same outcome or the same error for a rule, on every input, if the rule and all rules that it
reaches have the same descriptions in both, whatever their other rules and however they number
them. -/
theorem run_congr_of_reaches {d d' : Definitions} {maxDepth : Nat} {p p' : Parser}
    (hp : Parser.compile d maxDepth = .ok p) (hp' : Parser.compile d' maxDepth = .ok p')
    {rule : String} (h : ∀ name, d.Reaches rule name → d.get? name = d'.get? name)
    (input : String) : p.run rule input = p'.run rule input := by
  rw [run_eq_call hp, run_eq_call hp', Definitions.call_congr h maxDepth (maxDepth + 1) .self]

theorem exists_compile_of_isSome {d : Definitions} {maxDepth : Nat}
    (h : (Parser.compile d maxDepth).toOption.isSome) :
    ∃ p, Parser.compile d maxDepth = .ok p := by
  cases hc : Parser.compile d maxDepth with
  | error e =>
    rw [hc] at h
    cases h
  | ok p => exact ⟨p, rfl⟩

end Parser

/-- The rule `expr` of the sample. -/
def Description.sampleExpr : Description :=
  .choice [.series [.pattern "\\(", .ref "expr::", .pattern "\\)"], .pattern "(x|é)+"] .none none none

/-- The rule `expr` of the sample among other rules, one of which takes its number. -/
def Definitions.sampleAmong : Definitions := .ofList [
  ("a", .pattern "a"), ("expr", .sampleExpr), ("loop", .pattern "x")]

/-- The rule `expr` of the sample reaches itself only. -/
theorem Definitions.eq_of_reaches_sample {name : String}
    (h : Definitions.sample.Reaches "expr" name) : name = "expr" := by
  induction h with
  | self => rfl
  | @step name target description h hd ht ih =>
    subst ih
    have hexpr : Definitions.sample.get? "expr" = some .sampleExpr := by decide +kernel
    obtain rfl : Description.sampleExpr = description := Option.some.inj (hexpr.symm.trans hd)
    exact List.mem_singleton.1 ht

theorem Parser.run_congr_of_reaches_sample :
    ∃ p, Parser.compile .sample 3 = .ok sample ∧ Parser.compile .sampleAmong 3 = .ok p ∧
      Definitions.sample.names.idxOf "expr" = 0 ∧
      Definitions.sampleAmong.names.idxOf "expr" = 1 ∧
      (∀ name, Definitions.sample.Reaches "expr" name →
        Definitions.sample.get? name = Definitions.sampleAmong.get? name) ∧
      Definitions.sample.get? "loop" ≠ Definitions.sampleAmong.get? "loop" ∧
      sample.run "expr" "((éx))" = p.run "expr" "((éx))" ∧
      sample.run "expr" "((éx))" = .ok ⟨true, 7, .text "x"⟩ := by
  obtain ⟨p, hp⟩ := exists_compile_of_isSome
    (by decide +kernel : (Parser.compile .sampleAmong 3).toOption.isSome)
  have hsame : ∀ name, Definitions.sample.Reaches "expr" name →
      Definitions.sample.get? name = Definitions.sampleAmong.get? name := by
    intro name h
    rw [Definitions.eq_of_reaches_sample h]
    decide +kernel
  exact ⟨p, compile_sample, hp, by decide +kernel, by decide +kernel, hsame, by decide +kernel,
    run_congr_of_reaches compile_sample hp hsame "((éx))", by decide +kernel⟩

end DataGrammar
