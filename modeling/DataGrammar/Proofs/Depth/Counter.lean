import DataGrammar.Proofs.Depth.Limit

/-!
# Counting active references

`Parser.call` hands the number of references that are left down from rule to rule.
`Parser.counted` runs a node with a counter instead: it goes up where a reference is entered,
is checked against the limit, and goes down where the reference is left. The counter also keeps
its `peak`, and it outlives a run that is aborted.

* `Parser.agree_countedCall`: both runs are the same. An execution that ends leaves the counter
  as it was and has not passed the limit; one that is aborted has passed it.
* `Parser.limit_only_aborts`: what the limit can do to a run.
-/

namespace DataGrammar

/-- How many references are active, and the most that were active at once. -/
structure Counter where
  depth : Nat
  peak : Nat
  deriving DecidableEq, Repr

/-- Computations with a counter. -/
abbrev Counted := ExceptT Diagnostic (StateM Counter)

namespace Counted

/-- The result of a computation, and the counter after it. -/
def after {α : Type} (x : Counted α) (s : Counter) : Except Diagnostic α × Counter :=
  (x.run.run s).run

/-- Enter a reference. -/
def enter (limit : Nat) : Counted Unit := do
  modify fun s => ⟨s.depth + 1, max s.peak (s.depth + 1)⟩
  if limit < (← get).depth then
    throw (Diagnostic.ofCause (.recursionLimit limit))

/-- Leave a reference. -/
def leave : Counted Unit := modify fun s => { s with depth := s.depth - 1 }

variable {α β : Type} {limit : Nat} {s t : Counter}

@[simp] theorem after_pure (a : α) : after (pure a) s = (.ok a, s) := rfl

theorem after_bind_ok {x : Counted α} {f : α → Counted β} {a : α}
    (h : after x s = (.ok a, t)) : after (x >>= f) s = after (f a) t := by
  simp only [after] at h ⊢
  simp only [ExceptT.run_bind, StateT.run_bind, Id.run_bind, h]

theorem after_bind_error {x : Counted α} {f : α → Counted β} {e : Diagnostic}
    (h : after x s = (.error e, t)) : after (x >>= f) s = (.error e, t) := by
  simp only [after] at h ⊢
  simp only [ExceptT.run_bind, StateT.run_bind, Id.run_bind, h]
  rfl

theorem after_enter (h : s.depth < limit) :
    after (enter limit) s = (.ok (), ⟨s.depth + 1, max s.peak (s.depth + 1)⟩) := by
  show after (if limit < s.depth + 1 then _ else _) _ = _
  rw [if_neg (by omega)]
  rfl

theorem after_enter_of_le (h : limit ≤ s.depth) :
    after (enter limit) s = (.error (Diagnostic.ofCause (.recursionLimit limit)),
      ⟨s.depth + 1, max s.peak (s.depth + 1)⟩) := by
  show after (if limit < s.depth + 1 then _ else _) _ = _
  rw [if_pos (by omega)]
  rfl

@[simp] theorem after_leave : after leave s = (.ok (), { s with depth := s.depth - 1 }) := rfl

end Counted

namespace Parser

/-- Run a rule by reference with a counter. The fuel is only there for the recursion: the counter
passes the limit before it is used up. -/
def countedCall (p : Parser) : (fuel : Nat) → Fin p.size → Step Counted
  | 0, _ => fun _ => do
    Counted.enter p.maxDepth
    throw (Diagnostic.ofCause (.recursionLimit p.maxDepth))
  | fuel + 1, rule => fun c => do
    Counted.enter p.maxDepth
    let a ← (p.node rule).step Node.matchTerminal (p.countedCall fuel) c
    Counted.leave
    return a

/-- Run a node with a counter. -/
def counted (p : Parser) (node : Node p.size) : Step Counted :=
  node.step Node.matchTerminal (p.countedCall (p.maxDepth + 1))

/-- Match a rule at the start of an input with a counter that starts at zero. -/
def countedRun (p : Parser) (rule input : String) : Except Diagnostic Outcome × Counter :=
  match p.find? rule with
  | none => (.error (Cause.unknownRule rule), ⟨0, 0⟩)
  | some index =>
    let (result, s) := (p.counted (p.node index) (.start input)).after ⟨0, 0⟩
    (result.map .ofAttempt, s)

end Parser

/-- A run with the counter at `depth` beside one without: if the latter ends, so does the former,
with the same result, the counter where it was and the limit not passed; if it is aborted, the
counter has passed the limit. -/
def Counted.Meets {α : Type} (limit depth : Nat) (P : α → Prop) (x : Option α) (y : Counted α) :
    Prop :=
  ∀ s : Counter, s.depth = depth → match x with
    | some a => P a ∧ ∃ peak, y.after s = (.ok a, ⟨depth, peak⟩) ∧ (s.peak ≤ limit → peak ≤ limit)
    | none => ∃ t : Counter,
      y.after s = (.error (Diagnostic.ofCause (.recursionLimit limit)), t) ∧ limit < t.peak

/-- Runs with the counter at `depth` and runs without. -/
def Lockstep.counting (limit depth : Nat) : Lockstep Option Counted where
  Holds := Counted.Meets limit depth
  holds_pure := by
    intro α P a h s hs
    subst hs
    exact ⟨h, s.peak, rfl, id⟩
  holds_bind := by
    intro α β P Q x y f g hx hf s hs
    cases x with
    | none =>
      obtain ⟨t, ht, hp⟩ := hx s hs
      exact ⟨t, Counted.after_bind_error ht, hp⟩
    | some a =>
      obtain ⟨hP, peak, ht, hp⟩ := hx s hs
      have hb := hf a hP ⟨depth, peak⟩ rfl
      rw [Option.bind_eq_bind, Option.bind_some, Counted.after_bind_ok ht]
      split at hb
      · next b =>
        obtain ⟨hQ, peak', ht', hp'⟩ := hb
        exact ⟨hQ, peak', ht', fun h => hp' (hp h)⟩
      · exact hb

namespace Parser

variable {text : String}

/-- **The counter stands for the references that are left.** -/
theorem agree_countedCall (p : Parser) {fuel : Nat} (depth : Nat)
    (h : p.maxDepth < fuel + depth) (rule : Fin p.size) :
    Step.Agree (.counting p.maxDepth depth) text (p.call (p.maxDepth - depth) rule)
      (p.countedCall fuel rule) := by
  induction fuel generalizing depth rule with
  | zero =>
    intro c _ s hs
    rw [show p.maxDepth - depth = 0 by omega]
    refine ⟨_, Counted.after_bind_error (Counted.after_enter_of_le (by omega)), ?_⟩
    show p.maxDepth < max s.peak (s.depth + 1)
    omega
  | succ fuel ih =>
    intro c hc s hs
    by_cases hd : depth < p.maxDepth
    · -- the body of the rule runs one level further down
      have hbody := Node.agree_step_of_call
        (fun r => ih (depth + 1) (by omega) r) (p.node rule) c hc
        ⟨s.depth + 1, max s.peak (s.depth + 1)⟩ (by show s.depth + 1 = _; omega)
      have henter : (Counted.enter p.maxDepth).after s =
          (.ok (), ⟨s.depth + 1, max s.peak (s.depth + 1)⟩) := Counted.after_enter (by omega)
      rw [show p.maxDepth - depth = p.maxDepth - (depth + 1) + 1 by omega]
      simp only [call, countedCall, Counted.after_bind_ok henter]
      split at hbody
      · next a _ =>
        obtain ⟨hreach, peak, ht, hp⟩ := hbody
        refine ⟨hreach, peak, ?_, fun hs' => hp ?_⟩
        · rw [Counted.after_bind_ok ht, Counted.after_bind_ok Counted.after_leave]
          rfl
        · show max s.peak (s.depth + 1) ≤ p.maxDepth
          omega
      · obtain ⟨t, ht, hp⟩ := hbody
        exact ⟨t, Counted.after_bind_error ht, hp⟩
    · rw [show p.maxDepth - depth = 0 by omega]
      refine ⟨_, Counted.after_bind_error (Counted.after_enter_of_le (by omega)), ?_⟩
      show p.maxDepth < max s.peak (s.depth + 1)
      omega

/-- A node run with the counter anywhere. -/
theorem agree_counted (p : Parser) (node : Node p.size) (depth : Nat) :
    Step.Agree (.counting p.maxDepth depth) text
      (node.step Node.matchTerminal (p.call (p.maxDepth - depth))) (p.counted node) :=
  Node.agree_step_of_call (fun r => p.agree_countedCall depth (by omega) r) node

/-- The run with a counter is the run. -/
theorem countedRun_fst (p : Parser) (rule input : String) :
    (p.countedRun rule input).1 = p.run rule input := by
  unfold countedRun run
  cases p.find? rule with
  | none => rfl
  | some index =>
    have h := p.agree_counted (p.node index) 0 (.start input) (Cursor.at_start input) ⟨0, 0⟩ rfl
    rw [Nat.sub_zero] at h
    split at h
    · next a ha =>
      obtain ⟨-, peak, ht, -⟩ := h
      simp only [ha, ht]
      rfl
    · next ha =>
      obtain ⟨t, ht, -⟩ := h
      simp only [ha, ht]
      rfl

/-- **The limit can only abort a run, never change it.** A run that ends gives the same outcome
under every greater limit, and a run that is aborted is aborted under every smaller one. Counted
with a counter, every execution of a node that ends leaves the counter as it was without having
passed the limit, and every execution that has passed it, however deep inside, is aborted. -/
theorem limit_only_aborts (p : Parser) (rule input : String) :
    (∀ d d' o, d ≤ d' → (p.withMaxDepth d).run rule input = .ok o →
      (p.withMaxDepth d').run rule input = .ok o) ∧
    (∀ d d', d ≤ d' →
      (p.withMaxDepth d').run rule input = .error (Cause.recursionLimit d') →
      (p.withMaxDepth d).run rule input = .error (Cause.recursionLimit d)) ∧
    (p.countedRun rule input).1 = p.run rule input ∧
    (∀ (node : Node p.size) (c : Cursor) (s : Counter), c.At input →
      (∀ a t, (p.counted node c).after s = (.ok a, t) →
        node.step Node.matchTerminal (p.call (p.maxDepth - s.depth)) c = some a ∧
        t.depth = s.depth ∧ (s.peak ≤ p.maxDepth → t.peak ≤ p.maxDepth)) ∧
      (∀ e t, (p.counted node c).after s = (.error e, t) →
        node.step Node.matchTerminal (p.call (p.maxDepth - s.depth)) c = none ∧
        e = Diagnostic.ofCause (.recursionLimit p.maxDepth) ∧ p.maxDepth < t.peak)) := by
  refine ⟨fun d d' o h => run_mono h, fun d d' h => run_limit_anti h, p.countedRun_fst rule input,
    fun node c s hc => ?_⟩
  have h := p.agree_counted node s.depth c hc s rfl
  split at h
  · next a ha =>
    obtain ⟨-, peak, ht, hp⟩ := h
    rw [ha, ht]
    constructor
    · rintro a t ⟨⟩
      exact ⟨rfl, rfl, hp⟩
    · rintro e t ⟨⟩
  · next ha =>
    obtain ⟨t, ht, hp⟩ := h
    rw [ha, ht]
    constructor
    · rintro a t ⟨⟩
    · rintro e t ⟨⟩
      exact ⟨rfl, rfl, hp⟩

theorem limit_only_aborts_sample :
    (sample.withMaxDepth 2).run "expr" "((x))" = .ok ⟨true, 5, .text "x"⟩ ∧
    (sample.withMaxDepth 9).run "expr" "((x))" = .ok ⟨true, 5, .text "x"⟩ ∧
    (sample.withMaxDepth 1).run "expr" "((x))" = .error (Cause.recursionLimit 1) ∧
    (sample.withMaxDepth 0).run "expr" "((x))" = .error (Cause.recursionLimit 0) ∧
    (sample.counted (sample.node sampleRule) (.start "(x)")).after ⟨1, 1⟩ =
      (.ok ⟨true, ⟨3, some ')', []⟩, .text "x"⟩, ⟨1, 2⟩) ∧
    (sample.node sampleRule).step Node.matchTerminal (sample.call (sample.maxDepth - 1))
      (.start "(x)") = some ⟨true, ⟨3, some ')', []⟩, .text "x"⟩ := by
  have h := limit_only_aborts sample "expr"
  have hok : (sample.withMaxDepth 2).run "expr" "((x))" = .ok ⟨true, 5, .text "x"⟩ := by
    decide +kernel
  have hlimit : (sample.withMaxDepth 1).run "expr" "((x))" = .error (Cause.recursionLimit 1) := by
    decide +kernel
  have hcounted : (sample.counted (sample.node sampleRule) (.start "(x)")).after ⟨1, 1⟩ =
      (.ok ⟨true, ⟨3, some ')', []⟩, .text "x"⟩, ⟨1, 2⟩) := by
    decide +kernel
  have hstep := ((h "(x)").2.2.2 (sample.node sampleRule) (.start "(x)") ⟨1, 1⟩
    (Cursor.at_start "(x)")).1 _ _ hcounted
  dsimp only at hstep
  exact ⟨hok, (h "((x))").1 2 9 _ (by decide) hok, hlimit,
    (h "((x))").2.1 0 1 (by decide) hlimit, hcounted, hstep.1⟩

end Parser
end DataGrammar
