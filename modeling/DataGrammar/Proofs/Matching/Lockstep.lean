import DataGrammar.Matching.Node
import DataGrammar.Proofs.Text.Boundary
import Mathlib.Data.List.Forall2
import Mathlib.Tactic.Common

/-!
# Runs in lockstep

The combinators of steps are the same for all effects, so two runs with different effects can be
compared once and for all. A `Lockstep m n` relates computations with effects `m` and `n`: when
it relates `x` and `y`, both go the same way and have the same result, as far as it says so.
All it has to know is how it gets along with `pure` and `bind`.

* `Step.Agree` lifts a lockstep to steps at the places of a text; it also says that a step only
  moves on;
* `Step.agree_sequence`, `Step.agree_choice`, `Step.agree_repetition`: steps made of steps that
  agree do agree;
* `Node.agree_step`: two runs of one node agree if they agree on its patterns and references.

Every comparison of two runs is an instance: with more references allowed, with counters, with
a trace, with checks.
-/

namespace DataGrammar

/-- A relation of computations with effects `m` and `n` that compares what they do.
`Holds P x y` says that both have the same result, and that `P` holds of it. -/
structure Lockstep (m n : Type → Type) [Monad m] [Monad n] where
  Holds : {α : Type} → (α → Prop) → m α → n α → Prop
  holds_pure : ∀ {α : Type} {P : α → Prop} {a : α}, P a → Holds P (pure a) (pure a)
  holds_bind : ∀ {α β : Type} {P : α → Prop} {Q : β → Prop} {x : m α} {y : n α}
    {f : α → m β} {g : α → n β}, Holds P x y → (∀ a, P a → Holds Q (f a) (g a)) →
    Holds Q (x >>= f) (y >>= g)

/-- A run that is aborted on the left ends with `e` on the right, and any other does the same. -/
def Lockstep.aborting {ε : Type} (e : ε) : Lockstep Option (Except ε) where
  Holds P x y := match x with
    | some a => P a ∧ y = .ok a
    | none => y = .error e
  holds_pure := fun h => ⟨h, rfl⟩
  holds_bind := by
    intro α β P Q x y f g hx hf
    cases x with
    | none =>
      cases hx
      rfl
    | some a =>
      obtain ⟨hP, rfl⟩ := hx
      exact hf a hP

variable {m n : Type → Type} [Monad m] [Monad n] {L : Lockstep m n} {text : String}

/-! ### Steps -/

/-- At every place of the text, two steps do the same and do not move back. -/
def Step.Agree (L : Lockstep m n) (text : String) (f : Step m) (g : Step n) : Prop :=
  ∀ c, Cursor.At text c → L.Holds (fun a => c.Reaches a.cursor) (f c) (g c)

/-- Two parts that differ in their steps only, and those agree. -/
structure Part.Agree (L : Lockstep m n) (text : String) (p : Part m) (q : Part n) : Prop where
  name : p.name = q.name
  collapse : p.collapse = q.collapse
  step : Step.Agree L text p.step q.step

/-- Two branches that differ in their steps only, and those agree. -/
structure Step.Branch.Agree (L : Lockstep m n) (text : String) (b : Step.Branch m)
    (d : Step.Branch n) : Prop where
  key : b.key = d.key
  step : Step.Agree L text b.step d.step

namespace Step

theorem agree_optional {s : Option (Step m)} {t : Option (Step n)}
    (h : Option.Rel (Agree L text) s t) : Agree L text (optional s) (optional t) := by
  intro c hc
  cases h with
  | none => exact L.holds_pure (Cursor.Reaches.refl c)
  | some h => exact h c hc

theorem reaches_orDefault {default : Option Value} {start : Cursor} {a : Attempt}
    (h : start.Reaches a.cursor) : start.Reaches (orDefault default start a).cursor := by
  cases default with
  | none => exact h
  | some value => exact Cursor.Reaches.refl start

/-! ### Sequences -/

theorem Gathered.add_congr {p : Part m} {q : Part n} (h : Part.Agree L text p q) (g : Gathered)
    (item : Attempt) : g.add p item = g.add q item := by
  simp only [Gathered.add, h.name, h.collapse]

theorem agree_sequenceFrom {s : Option (Step m)} {t : Option (Step n)} {ps : List (Part m)}
    {qs : List (Part n)} (hs : Option.Rel (Agree L text) s t)
    (h : List.Forall₂ (Part.Agree L text) ps qs) (g : Gathered) {start c : Cursor}
    (hstart : Cursor.At text start) (hc : start.Reaches c) :
    L.Holds (fun a => start.Reaches a.cursor) (sequenceFrom s ps g c)
      (sequenceFrom t qs g c) := by
  induction h generalizing g c with
  | nil => exact L.holds_pure hc
  | @cons p q ps qs hp hps ih =>
    simp only [sequenceFrom]
    refine L.holds_bind (hp.step c (hstart.reaches hc)) fun item hitem => ?_
    have hi : start.Reaches item.cursor := hc.trans hitem
    rw [Gathered.add_congr hp]
    cases item.success with
    | false => exact L.holds_pure hi
    | true =>
      have hsep : Option.Rel (Agree L text) (if ps.isEmpty then none else s)
          (if qs.isEmpty then none else t) := by
        cases hps with
        | nil => exact .none
        | cons => exact hs
      refine L.holds_bind (agree_optional hsep _ (hstart.reaches hi)) fun between hb => ?_
      cases between.success with
      | false => exact L.holds_pure (hi.trans hb)
      | true => exact ih _ (hi.trans hb)

/-- Sequences of parts that agree do agree. -/
theorem agree_sequence {s : Option (Step m)} {t : Option (Step n)} {ps : List (Part m)}
    {qs : List (Part n)} (hs : Option.Rel (Agree L text) s t)
    (h : List.Forall₂ (Part.Agree L text) ps qs) (default : Option Value) :
    Agree L text (sequence s ps default) (sequence t qs default) := by
  intro start hstart
  refine L.holds_bind (agree_sequenceFrom hs h _ hstart (.refl start)) fun a ha => ?_
  refine L.holds_pure ?_
  split
  · exact ha
  · exact reaches_orDefault ha

/-! ### Choices -/

theorem agree_branches {ps : List (Part m)} {qs : List (Part n)}
    (h : List.Forall₂ (Part.Agree L text) ps qs) (number : Nat) :
    List.Forall₂ (Branch.Agree L text) (branches number ps) (branches number qs) := by
  induction h generalizing number with
  | nil => exact .nil
  | cons hp _ ih => exact .cons ⟨by rw [hp.name], hp.step⟩ (ih _)

theorem map_key_congr {bs : List (Branch m)} {ds : List (Branch n)}
    (h : List.Forall₂ (Branch.Agree L text) bs ds) : bs.map Branch.key = ds.map Branch.key := by
  induction h with
  | nil => rfl
  | cons hb _ ih => rw [List.map_cons, List.map_cons, hb.key, ih]

theorem agree_choiceFrom {bs : List (Branch m)} {ds : List (Branch n)}
    (h : List.Forall₂ (Branch.Agree L text) bs ds) (nesting : Nesting) (before : List String)
    {start : Cursor} {furthest : Attempt} (hstart : Cursor.At text start)
    (hf : start.Reaches furthest.cursor) :
    L.Holds (fun a => start.Reaches a.cursor) (choiceFrom nesting start bs before furthest)
      (choiceFrom nesting start ds before furthest) := by
  induction h generalizing before furthest with
  | nil => exact L.holds_pure hf
  | @cons b d bs ds hb hbs ih =>
    simp only [choiceFrom]
    refine L.holds_bind (hb.step start hstart) fun item hitem => ?_
    rw [hb.key, map_key_congr hbs]
    cases item.success with
    | true => exact L.holds_pure hitem
    | false =>
      refine ih _ ?_
      split
      · exact hitem
      · exact hf

/-- Choices between branches that agree do agree. -/
theorem agree_choice {ps : List (Part m)} {qs : List (Part n)}
    (h : List.Forall₂ (Part.Agree L text) ps qs) (nesting : Nesting) (default : Option Value) :
    Agree L text (choice nesting ps default) (choice nesting qs default) := by
  intro start hstart
  refine L.holds_bind
    (agree_choiceFrom (agree_branches h 1) nesting [] hstart (.refl start)) fun a ha => ?_
  refine L.holds_pure ?_
  split
  · exact ha
  · exact reaches_orDefault ha

/-! ### Repetitions -/

theorem reaches_finish {least : Nat} {items : List Value} {start commit stop : Cursor}
    {rest : Value} (hc : start.Reaches commit) (hs : start.Reaches stop) :
    start.Reaches (finish least items commit stop rest).cursor := by
  unfold finish
  split
  · exact hc
  · exact hs

theorem agree_repetitionFrom {f : Step m} {g : Step n} {s : Option (Step m)}
    {t : Option (Step n)} (hf : Agree L text f g) (hs : Option.Rel (Agree L text) s t)
    (least : Nat) (endless : Bool) (tries : Nat) (items : List Value) {start c : Cursor}
    (hstart : Cursor.At text start) (hc : start.Reaches c) :
    L.Holds (fun a => start.Reaches a.cursor) (repetitionFrom f s least endless tries items c)
      (repetitionFrom g t least endless tries items c) := by
  induction tries generalizing items c with
  | zero => exact L.holds_pure (reaches_finish hc hc)
  | succ tries ih =>
    simp only [repetitionFrom]
    refine L.holds_bind (hf c (hstart.reaches hc)) fun a ha => ?_
    have hi : start.Reaches a.cursor := hc.trans ha
    cases a.success with
    | false => exact L.holds_pure (reaches_finish hc hi)
    | true =>
      refine L.holds_bind (agree_optional hs _ (hstart.reaches hi)) fun after hafter => ?_
      have he : start.Reaches after.cursor := hi.trans hafter
      cases after.success with
      | false => exact L.holds_pure (reaches_finish hi he)
      | true =>
        simp only [Bool.not_true, Bool.false_eq_true, if_false]
        split
        · exact L.holds_pure (reaches_finish he he)
        · exact ih _ he

/-- Repetitions of items that agree do agree. -/
theorem agree_repetition {f : Step m} {g : Step n} {s : Option (Step m)} {t : Option (Step n)}
    (hf : Agree L text f g) (hs : Option.Rel (Agree L text) s t) (least : Nat)
    (most : Option Nat) :
    Agree L text (repetition f s least most) (repetition g t least most) := by
  intro start hstart
  cases most with
  | none => exact agree_repetitionFrom hf hs least true _ [] hstart (.refl start)
  | some most => exact agree_repetitionFrom hf hs least false most [] hstart (.refl start)

end Step

/-! ### Nodes -/

namespace Node

variable {k : Nat} {terminal : Pattern → Step m} {terminal' : Pattern → Step n}
  {call : Fin k → Step m} {call' : Fin k → Step n}

/-- `inner` is the node, or stands somewhere in it. -/
inductive Within (inner : Node k) : Node k → Prop
  | self : Within inner inner
  | part {node nodes separator name default} (hn : node ∈ nodes) (h : Within inner node) :
    Within inner (.sequence nodes separator name default)
  | partSeparator {nodes separator name default} (h : Within inner separator) :
    Within inner (.sequence nodes (some separator) name default)
  | branch {node nodes nesting name default} (hn : node ∈ nodes) (h : Within inner node) :
    Within inner (.choice nodes nesting name default)
  | item {node separator least most name} (h : Within inner node) :
    Within inner (.repetition node separator least most name)
  | itemSeparator {node separator least most name} (h : Within inner separator) :
    Within inner (.repetition node (some separator) least most name)

theorem Within.trans {inner node outer : Node k} (h : inner.Within node)
    (h' : node.Within outer) : inner.Within outer := by
  induction h' with
  | self => exact h
  | part hn _ ih => exact .part hn ih
  | partSeparator _ ih => exact .partSeparator ih
  | branch hn _ ih => exact .branch hn ih
  | item _ ih => exact .item ih
  | itemSeparator _ ih => exact .itemSeparator ih

theorem agree_matchTerminal (pattern : Pattern) :
    Step.Agree L text (matchTerminal pattern) (matchTerminal pattern) := by
  intro c hc
  simp only [matchTerminal]
  split
  · exact L.holds_pure (c.reaches_advance _)
  · exact L.holds_pure (.refl c)

mutual

/-- **Two runs of a node agree** if they agree on the patterns in it and on references. -/
theorem agree_step (hc : ∀ rule, Step.Agree L text (call rule) (call' rule)) (node : Node k)
    (ht : ∀ pattern, (Node.terminal pattern).Within node →
      Step.Agree L text (terminal pattern) (terminal' pattern)) :
    Step.Agree L text (node.step terminal call) (node.step terminal' call') := by
  cases node with
  | terminal pattern => exact ht pattern .self
  | reference rule key collapse => exact hc rule
  | sequence nodes separator name default =>
    refine Step.agree_sequence (agree_stepOption hc separator ?_) (agree_parts hc nodes ?_) default
    · rintro pattern node rfl h
      exact ht pattern (.partSeparator h)
    · exact fun pattern node hn h => ht pattern (.part hn h)
  | choice nodes nesting name default =>
    refine Step.agree_choice (agree_parts hc nodes ?_) nesting default
    exact fun pattern node hn h => ht pattern (.branch hn h)
  | repetition item separator least most name =>
    refine Step.agree_repetition (agree_step hc item ?_) (agree_stepOption hc separator ?_)
      least most
    · exact fun pattern h => ht pattern (.item h)
    · rintro pattern node rfl h
      exact ht pattern (.itemSeparator h)

theorem agree_parts (hc : ∀ rule, Step.Agree L text (call rule) (call' rule))
    (nodes : List (Node k))
    (ht : ∀ pattern, ∀ node ∈ nodes, (Node.terminal pattern).Within node →
      Step.Agree L text (terminal pattern) (terminal' pattern)) :
    List.Forall₂ (Part.Agree L text) (parts terminal call nodes)
      (parts terminal' call' nodes) := by
  cases nodes with
  | nil => exact .nil
  | cons node nodes =>
    refine .cons ⟨rfl, rfl, agree_step hc node ?_⟩ (agree_parts hc nodes ?_)
    · exact fun pattern h => ht pattern node List.mem_cons_self h
    · exact fun pattern node hn h => ht pattern node (List.mem_cons_of_mem _ hn) h

theorem agree_stepOption (hc : ∀ rule, Step.Agree L text (call rule) (call' rule))
    (separator : Option (Node k))
    (ht : ∀ pattern node, separator = some node → (Node.terminal pattern).Within node →
      Step.Agree L text (terminal pattern) (terminal' pattern)) :
    Option.Rel (Step.Agree L text) (stepOption terminal call separator)
      (stepOption terminal' call' separator) := by
  cases separator with
  | none => exact .none
  | some node => exact .some (agree_step hc node fun pattern h => ht pattern node rfl h)

end

/-- Runs that match the patterns in the same way agree if they agree on references. -/
theorem agree_step_of_call (hc : ∀ rule, Step.Agree L text (call rule) (call' rule))
    (node : Node k) :
    Step.Agree L text (node.step matchTerminal call) (node.step matchTerminal call') :=
  agree_step hc node fun pattern _ => agree_matchTerminal pattern

end Node
end DataGrammar
