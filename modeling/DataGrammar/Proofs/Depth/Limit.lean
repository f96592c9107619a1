import DataGrammar.Proofs.Compilation.Inversion
import DataGrammar.Proofs.Matching.Lockstep

/-!
# The limit on active references

A greater limit only lets a run go on that was aborted before.

* `Parser.agree_call_mono`, `Parser.step_mono`: what comes to an end with some references left
  does the same with more of them;
* `Parser.withMaxDepth` is the same parser with another limit, as compiling with that limit would
  give it (`Parser.compile_withMaxDepth`);
* `Parser.run_mono`, `Parser.run_limit_anti`: outcomes stay under greater limits, and aborted runs
  stay aborted under smaller ones; `Parser.run_of_le`: a smaller limit does no more than that.
-/

namespace DataGrammar

/-- What ends on the left does the same on the right. -/
def Lockstep.extends : Lockstep Option Option where
  Holds P x y := ∀ a, x = some a → y = some a ∧ P a
  holds_pure := by
    rintro α P a h _ ⟨⟩
    exact ⟨rfl, h⟩
  holds_bind := by
    intro α β P Q x y f g h hf b hb
    obtain ⟨a, ha, hb⟩ := Option.bind_eq_some_iff.1 hb
    obtain ⟨rfl, hP⟩ := h a ha
    exact hf a hP b hb

namespace Parser

variable {text : String}

/-- A call that ends does the same with more references left. -/
theorem agree_call_mono (p : Parser) {d d' : Nat} (h : d ≤ d') (rule : Fin p.size) :
    Step.Agree .extends text (p.call d rule) (p.call d' rule) := by
  induction d generalizing d' rule with
  | zero =>
    intro c hc a ha
    cases ha
  | succ d ih =>
    obtain ⟨d', rfl⟩ : ∃ k, d' = k + 1 := ⟨d' - 1, by omega⟩
    exact Node.agree_step_of_call (fun r => ih (by omega) r) (p.node rule)

/-- A node that ends does the same with more references left. -/
theorem step_mono (p : Parser) {d d' : Nat} (h : d ≤ d') (node : Node p.size) {c : Cursor}
    (hc : c.At text) {a : Attempt} (ha : node.step Node.matchTerminal (p.call d) c = some a) :
    node.step Node.matchTerminal (p.call d') c = some a :=
  (Node.agree_step_of_call (p.agree_call_mono h) node c hc a ha).1

/-- The same parser with another limit. -/
def withMaxDepth (p : Parser) (maxDepth : Nat) : Parser := { p with maxDepth }

/-- The limit does not change how a rule is run by reference. -/
theorem call_withMaxDepth (p : Parser) (maxDepth depth : Nat) :
    (p.withMaxDepth maxDepth).call depth = p.call depth := by
  induction depth with
  | zero => rfl
  | succ depth ih =>
    funext rule
    exact congrArg (fun call => (p.node rule).step Node.matchTerminal call) ih

/-- Compiling only records the limit. -/
theorem compile_withMaxDepth (d : Definitions) (maxDepth maxDepth' : Nat) :
    Parser.compile d maxDepth' = (Parser.compile d maxDepth).map (·.withMaxDepth maxDepth') := by
  simp only [Parser.compile]
  cases compileRules d.names d.rules <;> rfl

theorem run_withMaxDepth_eq_ok_iff {p : Parser} {maxDepth : Nat} {rule input : String}
    {o : Outcome} :
    (p.withMaxDepth maxDepth).run rule input = .ok o ↔
      ∃ index a, p.find? rule = some index ∧
        (p.node index).step Node.matchTerminal (p.call maxDepth) (.start input) = some a ∧
        o = .ofAttempt a := by
  rw [← call_withMaxDepth p maxDepth]
  exact run_eq_ok_iff

theorem run_withMaxDepth_eq_limit_iff {p : Parser} {maxDepth : Nat} {rule input : String} :
    (p.withMaxDepth maxDepth).run rule input = .error (Cause.recursionLimit maxDepth) ↔
      ∃ index, p.find? rule = some index ∧
        (p.node index).step Node.matchTerminal (p.call maxDepth) (.start input) = none := by
  rw [← call_withMaxDepth p maxDepth]
  exact run_eq_limit_iff

/-- **A greater limit keeps every outcome.** -/
theorem run_mono {p : Parser} {d d' : Nat} (h : d ≤ d') {rule input : String} {o : Outcome}
    (ho : (p.withMaxDepth d).run rule input = .ok o) :
    (p.withMaxDepth d').run rule input = .ok o := by
  obtain ⟨index, a, hi, ha, rfl⟩ := run_withMaxDepth_eq_ok_iff.1 ho
  exact run_withMaxDepth_eq_ok_iff.2 ⟨index, a, hi, p.step_mono h _ (Cursor.at_start input) ha, rfl⟩

/-- A smaller limit keeps an outcome or aborts the run. -/
theorem run_of_le {p : Parser} {d d' : Nat} (h : d ≤ d') {rule input : String} {o : Outcome}
    (ho : (p.withMaxDepth d').run rule input = .ok o) :
    (p.withMaxDepth d).run rule input = .ok o ∨
      (p.withMaxDepth d).run rule input = .error (Cause.recursionLimit d) := by
  obtain ⟨index, a, hi, ha, rfl⟩ := run_withMaxDepth_eq_ok_iff.1 ho
  cases hr : (p.node index).step Node.matchTerminal (p.call d) (.start input) with
  | none => exact .inr (run_withMaxDepth_eq_limit_iff.2 ⟨index, hi, hr⟩)
  | some b =>
    obtain rfl := Option.some.inj ((p.step_mono h _ (Cursor.at_start input) hr).symm.trans ha)
    exact .inl (run_withMaxDepth_eq_ok_iff.2 ⟨index, b, hi, hr, rfl⟩)

/-- A run that a limit aborts is aborted by every smaller one. -/
theorem run_limit_anti {p : Parser} {d d' : Nat} (h : d ≤ d') {rule input : String}
    (ha : (p.withMaxDepth d').run rule input = .error (Cause.recursionLimit d')) :
    (p.withMaxDepth d).run rule input = .error (Cause.recursionLimit d) := by
  obtain ⟨index, hi, ha⟩ := run_withMaxDepth_eq_limit_iff.1 ha
  refine run_withMaxDepth_eq_limit_iff.2 ⟨index, hi, ?_⟩
  cases hr : (p.node index).step Node.matchTerminal (p.call d) (.start input) with
  | none => rfl
  | some a =>
    rw [p.step_mono h _ (Cursor.at_start input) hr] at ha
    cases ha

end Parser
end DataGrammar
