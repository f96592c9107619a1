import DataGrammar.Proofs.Compilation.Reachable
import DataGrammar.Proofs.Matching.Repetition

/-!
# Every run comes to an end

`Step.repetition` has a bound on its rounds. `Step.loop` is the repetition without one: it does one
round after the other as long as it has to, for ever if need be. `Node.observe` runs a node with
loops like that, and writes down every node that is executed and every attempt of a repetition at
its item.

* `Observed.iterate`: rounds that nothing bounds; `Observed.iterate_eq` says what they do.
* `Step.agree_loop`: such a loop does come to an end, and gives what the bounded repetition gives.
  A round that is not the last one fills in an item that is missing or passes something.
* `Node.agree_observe`, `Parser.agree_observedCall`: so does every node and every rule, as the
  number of references that are left goes down.
* `Parser.run_ends`: every run ends after finitely many executions of nodes, with an outcome or at
  the limit, and no repetition tries its item more often than its bounds and the text ahead allow.
-/

namespace DataGrammar

/-- What is written down in a run. -/
inductive Event where
  /-- A node is executed. -/
  | node
  /-- A repetition that began at the byte `start` tries its item for the `number`th time. -/
  | attempt (start least : Nat) (most : Option Nat) (number : Nat)
  deriving DecidableEq, Repr

/-- In a text with so many bytes, a repetition does not try its item too often: no more times than
there may be items, or, without an upper bound, no more than there must be and one for each byte
that is left. -/
def Event.Within (length : Nat) : Event → Prop
  | .node => True
  | .attempt _ _ (some most) number => number ≤ most
  | .attempt start least none number => number ≤ max least 1 + (length - start)

/-- Computations that write events down, the latest first. What is written outlives a run that is
aborted. A computation that goes on for ever is `none`. -/
abbrev Observed := ExceptT Diagnostic (StateT (List Event) Option)

namespace Observed

variable {α β : Type} {log log' : List Event}

/-- The result of a computation, and what is written down after it, if it comes to an end. -/
def after (x : Observed α) (log : List Event) : Option (Except Diagnostic α × List Event) :=
  x.run.run log

/-- Write an event down. -/
def note (e : Event) : Observed Unit := modify (e :: ·)

theorem after_note_bind (e : Event) (f : Unit → Observed α) :
    after (note e >>= f) log = after (f ()) (e :: log) := rfl

theorem after_bind_ok {x : Observed α} {f : α → Observed β} {a : α}
    (h : after x log = some (.ok a, log')) : after (x >>= f) log = after (f a) log' := by
  simp only [after] at h ⊢
  simp only [ExceptT.run_bind, StateT.run_bind, h]
  rfl

theorem after_bind_error {x : Observed α} {f : α → Observed β} {e : Diagnostic}
    (h : after x log = some (.error e, log')) : after (x >>= f) log = some (.error e, log') := by
  simp only [after] at h ⊢
  simp only [ExceptT.run_bind, StateT.run_bind, h]
  rfl

theorem after_bind_none {x : Observed α} (f : α → Observed β) (h : after x log = none) :
    after (x >>= f) log = none := by
  simp only [after] at h ⊢
  simp only [ExceptT.run_bind, StateT.run_bind, h]
  rfl

/-- Whatever a computation gives, another one gives, too. -/
def Extends (x y : Observed α) : Prop :=
  ∀ log result, after x log = some result → after y log = some result

theorem Extends.refl (x : Observed α) : x.Extends x := fun _ _ h => h

theorem Extends.trans {x y z : Observed α} (h : x.Extends y) (h' : y.Extends z) : x.Extends z :=
  fun log result hx => h' log result (h log result hx)

theorem Extends.bind (x : Observed α) {f g : α → Observed β} (h : ∀ a, (f a).Extends (g a)) :
    (x >>= f).Extends (x >>= g) := by
  intro log result hresult
  cases hx : after x log with
  | none =>
    rw [after_bind_none f hx] at hresult
    cases hresult
  | some r =>
    obtain ⟨r, log'⟩ := r
    cases r with
    | error e =>
      rw [after_bind_error hx] at hresult ⊢
      exact hresult
    | ok a =>
      rw [after_bind_ok hx] at hresult ⊢
      exact h a log' result hresult

/-! ### Rounds without a bound -/

variable {σ : Type}

/-- Do one round after the other until one of them gives a result, but no more than so many. -/
def iterateFor (round : σ → Observed (α ⊕ σ)) : (rounds : Nat) → σ → Observed α
  | 0, _ => fun _ => none
  | rounds + 1, s => do
    match ← round s with
    | .inl a => return a
    | .inr s => iterateFor round rounds s

theorem extends_iterateFor_succ (round : σ → Observed (α ⊕ σ)) (n : Nat) (s : σ) :
    (iterateFor round n s).Extends (iterateFor round (n + 1) s) := by
  induction n generalizing s with
  | zero => exact fun _ _ => nofun
  | succ n ih =>
    refine Extends.bind _ fun next => ?_
    cases next with
    | inl a => exact .refl _
    | inr s => exact ih s

theorem extends_iterateFor (round : σ → Observed (α ⊕ σ)) {n n' : Nat} (h : n ≤ n') (s : σ) :
    (iterateFor round n s).Extends (iterateFor round n' s) := by
  induction h with
  | refl => exact .refl _
  | step _ ih => exact ih.trans (extends_iterateFor_succ round _ s)

open Classical in
/-- Do one round after the other until one of them gives a result, for ever if need be. -/
noncomputable def iterate (round : σ → Observed (α ⊕ σ)) (s : σ) : Observed α := fun log =>
  if h : ∃ n, (after (iterateFor round n s) log).isSome then
    after (iterateFor round h.choose s) log
  else none

/-- A result that there is after some number of rounds is the result. -/
theorem extends_iterate (round : σ → Observed (α ⊕ σ)) (n : Nat) (s : σ) :
    (iterateFor round n s).Extends (iterate round s) := by
  intro log result h
  have hex : ∃ n, (after (iterateFor round n s) log).isSome :=
    ⟨n, Option.isSome_iff_exists.2 ⟨result, h⟩⟩
  obtain ⟨result', h'⟩ := Option.isSome_iff_exists.1 hex.choose_spec
  -- both are the result after as many rounds as in the longer of the two
  have hmax := extends_iterateFor round (Nat.le_max_left n hex.choose) s log result h
  have hmax' := extends_iterateFor round (Nat.le_max_right n hex.choose) s log result' h'
  obtain rfl : result' = result := Option.some.inj (hmax'.symm.trans hmax)
  have hiterate : after (iterate round s) log = after (iterateFor round hex.choose s) log :=
    dif_pos hex
  rw [hiterate, h']

/-- Where there is a result, it is there after some number of rounds. -/
theorem exists_iterateFor {round : σ → Observed (α ⊕ σ)} {s : σ}
    {result : Except Diagnostic α × List Event} (h : after (iterate round s) log = some result) :
    ∃ n, after (iterateFor round n s) log = some result := by
  by_cases hex : ∃ n, (after (iterateFor round n s) log).isSome
  · have hiterate : after (iterate round s) log = after (iterateFor round hex.choose s) log :=
      dif_pos hex
    exact ⟨hex.choose, hiterate ▸ h⟩
  · have hiterate : after (iterate round s) log = none := dif_neg hex
    rw [hiterate] at h
    cases h

/-- **A round is followed by the others**, also where they never come to an end. -/
theorem iterate_eq (round : σ → Observed (α ⊕ σ)) (s : σ) :
    iterate round s = (do
      match ← round s with
      | .inl a => return a
      | .inr s => iterate round s) := by
  refine funext fun log => Option.ext fun result => ⟨fun h => ?_, fun h => ?_⟩
  · obtain ⟨n, hn⟩ := exists_iterateFor h
    cases n with
    | zero => cases hn
    | succ n =>
      refine Extends.bind _ (fun next => ?_) log result hn
      cases next with
      | inl a => exact .refl _
      | inr s => exact extends_iterate round n s
  · change after (round s >>= _) log = some result at h
    obtain ⟨n, hn⟩ : ∃ n, after (iterateFor round n s) log = some result := by
      cases hx : after (round s) log with
      | none =>
        rw [after_bind_none _ hx] at h
        cases h
      | some next =>
        obtain ⟨next, log'⟩ := next
        cases next with
        | error e =>
          rw [after_bind_error hx] at h
          exact ⟨1, (after_bind_error hx).trans h⟩
        | ok next =>
          rw [after_bind_ok hx] at h
          cases next with
          | inl a => exact ⟨1, (after_bind_ok hx).trans h⟩
          | inr s =>
            obtain ⟨n, hn⟩ := exists_iterateFor h
            exact ⟨n + 1, (after_bind_ok hx).trans hn⟩
    exact extends_iterate round n s log result hn

end Observed

namespace Step

/-- A round of a repetition that began at the byte `start`, from a cursor on where it has `items`,
the last one first: what it gives, or where it goes on. -/
def round (item : Step Observed) (separator : Option (Step Observed)) (least : Nat)
    (most : Option Nat) (start : Nat) :
    List Value × Cursor → Observed (Attempt ⊕ List Value × Cursor)
  | (items, c) => do
    if most.any (· ≤ items.length) then
      return .inl (finish least items c c .null)
    Observed.note (.attempt start least most (items.length + 1))
    let a ← item c
    if !a.success then
      return .inl (finish least items c a.cursor a.value)
    let items := a.value :: items
    let after ← optional separator a.cursor
    if !after.success then
      return .inl (finish least items a.cursor after.cursor .null)
    if most.isNone && after.cursor.offset == c.offset && least ≤ items.length then
      return .inl (finish least items after.cursor after.cursor .null)
    return .inr (items, after.cursor)

/-- A repetition. Nothing bounds its rounds but what its item and separator do. -/
noncomputable def loop (item : Step Observed) (separator : Option (Step Observed)) (least : Nat)
    (most : Option Nat) : Step Observed := fun start =>
  Observed.iterate (round item separator least most start.offset) ([], start)

/-- The rounds of a repetition, one by one. -/
theorem iterateFor_round (item : Step Observed) (separator : Option (Step Observed)) (least : Nat)
    (most : Option Nat) (start n : Nat) (items : List Value) (c : Cursor) :
    Observed.iterateFor (round item separator least most start) (n + 1) (items, c) = (do
      if most.any (· ≤ items.length) then
        return finish least items c c .null
      Observed.note (.attempt start least most (items.length + 1))
      let a ← item c
      if !a.success then
        return finish least items c a.cursor a.value
      let items := a.value :: items
      let after ← optional separator a.cursor
      if !after.success then
        return finish least items a.cursor after.cursor .null
      if most.isNone && after.cursor.offset == c.offset && least ≤ items.length then
        return finish least items after.cursor after.cursor .null
      Observed.iterateFor (round item separator least most start) n (items, after.cursor)) := by
  rw [Observed.iterateFor, round]
  split
  · simp
  · simp only [bind_assoc]
    refine congrArg _ (funext fun _ => congrArg _ (funext fun a => ?_))
    split
    · simp
    · simp only [bind_assoc]
      refine congrArg _ (funext fun after => ?_)
      split
      · simp
      · split
        · simp
        · simp

end Step

namespace Node

variable {n : Nat}

/-- Write down that a node is executed, and do so. -/
def executed (step : Step Observed) : Step Observed := fun c => do
  Observed.note .node
  step c

mutual

/-- Run a node with loops that nothing bounds, given how to run the rules. -/
noncomputable def observe (call : Fin n → Step Observed) : Node n → Step Observed
  | .terminal pattern => executed (matchTerminal pattern)
  | .reference rule _ _ => executed (call rule)
  | .sequence nodes separator _ default =>
    executed (Step.sequence (observeOption call separator) (observeParts call nodes) default)
  | .choice nodes nesting _ default =>
    executed (Step.choice nesting (observeParts call nodes) default)
  | .repetition item separator least most _ =>
    executed (Step.loop (item.observe call) (observeOption call separator) least most)

/-- Nodes as parts. -/
noncomputable def observeParts (call : Fin n → Step Observed) : List (Node n) → List (Part Observed)
  | [] => []
  | node :: nodes => ⟨node.name, node.collapse, node.observe call⟩ :: observeParts call nodes

/-- Run a separator. -/
noncomputable def observeOption (call : Fin n → Step Observed) : Option (Node n) → Option (Step Observed)
  | none => none
  | some node => some (node.observe call)

end

end Node

namespace Parser

/-- Run a rule by reference, with `depth` references left. -/
noncomputable def observedCall (p : Parser) : (depth : Nat) → Fin p.size → Step Observed
  | 0, _ => fun _ => throw (Diagnostic.ofCause (.recursionLimit p.maxDepth))
  | depth + 1, rule => (p.node rule).observe (p.observedCall depth)

/-- Match a rule at the start of an input, and tell what was written down. -/
noncomputable def observedRun (p : Parser) (rule input : String) :
    Option (Except Diagnostic Outcome × List Event) :=
  match p.find? rule with
  | none => some (.error (Cause.unknownRule rule), [])
  | some index =>
    (((p.node index).observe (p.observedCall p.maxDepth) (.start input)).after []).map
      fun (result, log) => (result.map .ofAttempt, log)

end Parser

/-- A run that is aborted ends at the limit. -/
def Observed.verdict {α : Type} (limit : Nat) : Option α → Except Diagnostic α
  | some a => .ok a
  | none => .error (Diagnostic.ofCause (.recursionLimit limit))

/-- A run beside one that is observed in a text with so many bytes: the latter comes to an end, does
the same, and no repetition in it tries its item too often. -/
def Lockstep.observing (limit length : Nat) : Lockstep Option Observed where
  Holds P x y := (∀ a, x = some a → P a) ∧ ∀ log, ∃ new,
    y.after log = some (Observed.verdict limit x, new ++ log) ∧ ∀ e ∈ new, e.Within length
  holds_pure := by
    intro α P a h
    refine ⟨?_, fun log => ⟨[], rfl, List.forall_mem_nil _⟩⟩
    rintro _ ⟨⟩
    exact h
  holds_bind := by
    intro α β P Q x y f g hx hf
    obtain ⟨hP, hx⟩ := hx
    cases x with
    | none =>
      refine ⟨nofun, fun log => ?_⟩
      obtain ⟨new, hnew, hwithin⟩ := hx log
      exact ⟨new, Observed.after_bind_error hnew, hwithin⟩
    | some a =>
      obtain ⟨hQ, hg⟩ := hf a (hP a rfl)
      refine ⟨hQ, fun log => ?_⟩
      obtain ⟨new, hnew, hwithin⟩ := hx log
      obtain ⟨more, hmore, hwithin'⟩ := hg (new ++ log)
      refine ⟨more ++ new, ?_, List.forall_mem_append.2 ⟨hwithin', hwithin⟩⟩
      rw [Observed.after_bind_ok hnew, hmore, List.append_assoc]
      rfl

/-- At every place of the text, a step that may go on for ever comes to an end and does the same as
one that cannot. -/
abbrev Step.Halts (limit : Nat) (text : String) : Step Option → Step Observed → Prop :=
  Step.Agree (.observing limit text.utf8ByteSize) text

theorem Lockstep.observing_note {α : Type} {limit length : Nat} {P : α → Prop} {x : Option α}
    {f : Unit → Observed α} {e : Event} (he : e.Within length)
    (h : (Lockstep.observing limit length).Holds P x (f ())) :
    (Lockstep.observing limit length).Holds P x (Observed.note e >>= f) := by
  refine ⟨h.1, fun log => ?_⟩
  obtain ⟨new, hnew, hwithin⟩ := h.2 (e :: log)
  refine ⟨new ++ [e], ?_, List.forall_mem_append.2 ⟨hwithin, List.forall_mem_singleton.2 he⟩⟩
  rw [Observed.after_note_bind, hnew, List.append_assoc]
  rfl

theorem Lockstep.observing_extends {α : Type} {limit length : Nat} {P : α → Prop} {x : Option α}
    {y z : Observed α} (h : (Lockstep.observing limit length).Holds P x y) (hz : y.Extends z) :
    (Lockstep.observing limit length).Holds P x z := by
  refine ⟨h.1, fun log => ?_⟩
  obtain ⟨new, hnew, hwithin⟩ := h.2 log
  exact ⟨new, hz log _ hnew, hwithin⟩

/-! ### Loops -/

namespace Step

variable {least count tries start limit : Nat} {most : Option Nat} {c d : Cursor}

/-- A repetition that began at the byte `start` has `count` items at a cursor: as many as there must
be, without the last one of them, and one for each byte that it has passed. -/
def Paid (least start count : Nat) (c : Cursor) : Prop :=
  start ≤ c.offset ∧ count + 1 ≤ max least 1 + (c.offset - start)

/-- A round that is not the last one fills in an item that is missing, or passes something. -/
theorem Paid.round (h : Paid least start count c) (hc : c.Reaches d)
    (hgoes : d.offset = c.offset → count + 1 < least) : Paid least start (count + 1) d := by
  obtain ⟨hstart, hcount⟩ := h
  have hle := hc.offset_le
  refine ⟨Nat.le_trans hstart hle, ?_⟩
  by_cases hoffset : d.offset = c.offset
  · have := hgoes hoffset
    omega
  · omega

/-- A repetition without an upper bound gives no more items than it has paid for. -/
theorem Iterates.le_paid {text : String} {item : Step Option} {separator : Option (Step Option)}
    {items : List Value} {commit stop : Cursor} {rest : Value}
    (h : Iterates item separator least none count c items commit stop rest)
    (hitem : MovesOn text item) (hseparator : ∀ s ∈ separator, MovesOn text s)
    (hc : Cursor.At text c) (hpaid : Paid least start count c) :
    count + items.length ≤ max least 1 + (commit.offset - start) := by
  induction h with
  | full hmost => cases hmost
  | ofItem hmost hfirst => exact Nat.le_of_succ_le hpaid.2
  | ofSeparator hmost hfirst hsecond =>
    have hle := (hitem _ hc _ hfirst).offset_le
    obtain ⟨hstart, hcount⟩ := hpaid
    simp only [List.length_singleton] at hle ⊢
    omega
  | standstill hmost hround hleast => exact hpaid.2
  | round hmost hround hgoes _ ih =>
    have hreach := hround.reaches hitem hseparator hc
    rw [List.length_cons, ← Nat.add_assoc, Nat.add_right_comm]
    refine ih (hc.reaches hreach) (hpaid.round hreach fun hoffset => hgoes rfl ?_)
    exact (hc.reaches hreach).eq_of_offset_eq hc hoffset

/-- The next attempt is one of those that are allowed. -/
theorem within_attempt {text : String} (hmost : ¬most.any (· ≤ count))
    (hpaid : most = none → Paid least start count c) (hc : Cursor.At text c) :
    (Event.attempt start least most (count + 1)).Within text.utf8ByteSize := by
  cases most with
  | some most => exact Nat.not_le.1 fun hle => hmost (decide_eq_true hle)
  | none =>
    have hcount := (hpaid rfl).2
    have hlength := hc.offset_le
    simp only [Event.Within]
    omega

/-- Where no more rounds are needed, the loop does none. -/
theorem Suffices.any_of_zero (h : Suffices least most count 0 c) : most.any (· ≤ count) := by
  obtain rfl := h.eq_of_zero
  exact decide_eq_true (Nat.le_refl count)

/-- Where more rounds may be needed, the loop goes on. -/
theorem Suffices.not_any (h : Suffices least most count (tries + 1) c) :
    ¬most.any (· ≤ count) := by
  cases most with
  | none => exact Bool.false_ne_true
  | some most =>
    have heq : count + (tries + 1) = most := h
    intro hle
    have := of_decide_eq_true hle
    omega

variable {text : String} {f : Step Option} {g : Step Observed} {s : Option (Step Option)}
  {t : Option (Step Observed)}

/-- **The rounds of a repetition come to an end** and give what the bounded repetition gives. -/
theorem holds_rounds (hf : Halts limit text f g) (hs : Option.Rel (Halts limit text) s t)
    {first : Cursor} (hfirst : Cursor.At text first) {items : List Value} (hc : first.Reaches c)
    (htries : Suffices least most items.length tries c)
    (hpaid : most = none → Paid least first.offset items.length c) :
    (Lockstep.observing limit text.utf8ByteSize).Holds (fun a => first.Reaches a.cursor)
      (repetitionFrom f s least most.isNone tries items c)
      (Observed.iterateFor (round g t least most first.offset) (tries + 1) (items, c)) := by
  induction tries generalizing items c with
  | zero =>
    rw [iterateFor_round, if_pos htries.any_of_zero]
    exact Lockstep.holds_pure _ (reaches_finish hc hc)
  | succ tries ih =>
    rw [iterateFor_round, if_neg htries.not_any, repetitionFrom]
    refine Lockstep.observing_note (within_attempt htries.not_any hpaid (hfirst.reaches hc)) ?_
    refine Lockstep.holds_bind _ (hf c (hfirst.reaches hc)) fun a ha => ?_
    have hi : first.Reaches a.cursor := hc.trans ha
    cases a.success with
    | false => exact Lockstep.holds_pure _ (reaches_finish hc hi)
    | true =>
      refine Lockstep.holds_bind _ (agree_optional hs _ (hfirst.reaches hi)) fun after hafter => ?_
      have he : first.Reaches after.cursor := hi.trans hafter
      cases after.success with
      | false => exact Lockstep.holds_pure _ (reaches_finish hi he)
      | true =>
        simp only [Bool.not_true, Bool.false_eq_true, if_false]
        split
        · exact Lockstep.holds_pure _ (reaches_finish he he)
        · next hmore =>
          have hgoes : most = none → after.cursor.offset = c.offset → items.length + 1 < least := by
            rintro rfl hoffset
            simpa [hoffset] using hmore
          have hround : c.Reaches after.cursor := ha.trans hafter
          have htries' : Suffices least most (a.value :: items).length tries after.cursor :=
            htries.round hround hgoes
          exact ih he htries' fun hnone => (hpaid hnone).round hround (hgoes hnone)

/-- Repetitions without a bound on their rounds agree with those that have one. -/
theorem agree_loop (hf : Halts limit text f g) (hs : Option.Rel (Halts limit text) s t)
    (least : Nat) (most : Option Nat) :
    Halts limit text (repetition f s least most) (loop g t least most) := by
  intro start hstart
  obtain ⟨tries, htries, hrun⟩ := exists_suffices f s least most start
  have hpaid : Paid least start.offset 0 start := ⟨Nat.le_refl _, by omega⟩
  rw [hrun]
  exact Lockstep.observing_extends (holds_rounds hf hs hstart (.refl start) htries fun _ => hpaid)
    (Observed.extends_iterate _ _ _)

end Step

/-! ### Nodes and rules -/

namespace Node

variable {n limit : Nat} {text : String} {call : Fin n → Step Option} {call' : Fin n → Step Observed}

/-- Writing down that a node is executed changes nothing. -/
theorem agree_executed {f : Step Option} {g : Step Observed} (h : Step.Halts limit text f g) :
    Step.Halts limit text f (executed g) :=
  fun c hc => Lockstep.observing_note trivial (h c hc)

mutual

/-- **Every node comes to an end** if the rules that it refers to do. -/
theorem agree_observe (hcall : ∀ rule, Step.Halts limit text (call rule) (call' rule))
    (node : Node n) :
    Step.Halts limit text (node.step matchTerminal call) (node.observe call') := by
  cases node with
  | terminal pattern => exact agree_executed (agree_matchTerminal pattern)
  | reference rule key collapse => exact agree_executed (hcall rule)
  | sequence nodes separator name default =>
    exact agree_executed (Step.agree_sequence (agree_observeOption hcall separator)
      (agree_observeParts hcall nodes) default)
  | choice nodes nesting name default =>
    exact agree_executed (Step.agree_choice (agree_observeParts hcall nodes) nesting default)
  | repetition item separator least most name =>
    exact agree_executed (Step.agree_loop (agree_observe hcall item)
      (agree_observeOption hcall separator) least most)

theorem agree_observeParts (hcall : ∀ rule, Step.Halts limit text (call rule) (call' rule))
    (nodes : List (Node n)) :
    List.Forall₂ (Part.Agree (.observing limit text.utf8ByteSize) text)
      (parts matchTerminal call nodes) (observeParts call' nodes) := by
  cases nodes with
  | nil => exact .nil
  | cons node nodes =>
    exact .cons ⟨rfl, rfl, agree_observe hcall node⟩ (agree_observeParts hcall nodes)

theorem agree_observeOption (hcall : ∀ rule, Step.Halts limit text (call rule) (call' rule))
    (separator : Option (Node n)) :
    Option.Rel (Step.Halts limit text) (stepOption matchTerminal call separator)
      (observeOption call' separator) := by
  cases separator with
  | none => exact .none
  | some node => exact .some (agree_observe hcall node)

end

end Node

namespace Parser

/-- **Every rule comes to an end**, with fewer references left for those below it. -/
theorem agree_observedCall (p : Parser) (text : String) (depth : Nat) (rule : Fin p.size) :
    Step.Halts p.maxDepth text (p.call depth rule) (p.observedCall depth rule) := by
  induction depth generalizing rule with
  | zero => exact fun c _ => ⟨nofun, fun log => ⟨[], rfl, List.forall_mem_nil _⟩⟩
  | succ depth ih => exact Node.agree_observe ih (p.node rule)

/-- A run that nothing bounds but the limit comes to an end, and is the run. -/
theorem observedRun_eq (p : Parser) (rule input : String) :
    ∃ log, p.observedRun rule input = some (p.run rule input, log) ∧
      ∀ e ∈ log, e.Within input.utf8ByteSize := by
  unfold observedRun run
  cases p.find? rule with
  | none => exact ⟨[], rfl, List.forall_mem_nil _⟩
  | some index =>
    have h := Node.agree_observe (p.agree_observedCall input p.maxDepth) (p.node index)
      (.start input) (Cursor.at_start input)
    obtain ⟨new, hnew, hwithin⟩ := h.2 []
    rw [List.append_nil] at hnew
    refine ⟨new, ?_, hwithin⟩
    simp only [hnew, Option.map_some]
    cases (p.node index).step Node.matchTerminal (p.call p.maxDepth) (.start input) <;> rfl

/-- **Every run comes to an end.** Without any bound on the rounds of repetitions, a run ends after
finitely many executions of nodes, and gives what it gives with them. If there is the rule, that is
an outcome or an aborted run. No repetition in it tries its item more often than there may be items,
or, without an upper bound, more often than there must be and once for each byte that was left. Such
a repetition that matches gives no more items than there must be and one for each byte that it
passes. -/
theorem run_ends (p : Parser) (rule input : String) :
    (∃ log, p.observedRun rule input = some (p.run rule input, log) ∧
      ∀ e ∈ log, e.Within input.utf8ByteSize) ∧
    (p.hasRule rule → (∃ o, p.run rule input = .ok o) ∨
      p.run rule input = .error (Cause.recursionLimit p.maxDepth)) ∧
    ∀ (depth : Nat) (item : Node p.size) (separator : Option (Node p.size)) (least : Nat)
      (name : Option String) (start : Cursor) (a : Attempt), Cursor.At input start →
      (Node.repetition item separator least none name).step Node.matchTerminal (p.call depth) start =
        some a → a.success →
      ∃ values, a.value = .list values ∧
        values.length ≤ max least 1 + (a.cursor.offset - start.offset) := by
  refine ⟨p.observedRun_eq rule input, fun hrule => ?_, ?_⟩
  · obtain ⟨index, hindex⟩ := Option.isSome_iff_exists.1 hrule
    cases hrun : (p.node index).step Node.matchTerminal (p.call p.maxDepth) (.start input) with
    | none => exact .inr (run_eq_limit_iff.2 ⟨index, hindex, hrun⟩)
    | some a => exact .inl ⟨_, run_eq_ok_iff.2 ⟨index, a, hindex, hrun, rfl⟩⟩
  · intro depth item separator least name start a hstart ha hs
    obtain ⟨items, commit, stop, rest, hcourse, hcloses⟩ :=
      (step_repetition_eq_some_iff hstart).1 ha
    cases hcloses with
    | enough hleast =>
      have hpaid : Step.Paid least start.offset 0 start := ⟨Nat.le_refl _, by omega⟩
      have hle := hcourse.le_paid (p.movesOn_step depth item) (p.movesOn_stepOption depth separator)
        hstart hpaid
      exact ⟨items, rfl, by rwa [Nat.zero_add] at hle⟩
    | tooFew => cases hs
    | tooFewAndRest => cases hs

end Parser

/-- A rule that begins with itself, and one that repeats what matches nothing, too. -/
def Definitions.sampleEndless : Definitions := .ofList [
  ("left", .choice [.series [.ref "left", .pattern "x"], .pattern "x"] .none none none),
  ("stars", .repetition (.pattern "x*") none 2 none none)]

theorem Parser.run_ends_sample : ∃ p log more, Parser.compile .sampleEndless 3 = .ok p ∧
    p.run "left" "xx" = .error (Cause.recursionLimit 3) ∧
    p.observedRun "left" "xx" = some (.error (Cause.recursionLimit 3), log) ∧
    p.run "stars" "xx" = .ok ⟨true, 2, .list [.text "xx", .text ""]⟩ ∧
    p.observedRun "stars" "xx" = some (.ok ⟨true, 2, .list [.text "xx", .text ""]⟩, more) ∧
    (∀ e ∈ more, e.Within 2) ∧
    Cursor.At "(x)" (.start "(x)") ∧
    (sampleList none).step Node.matchTerminal (sample.call 3) (.start "(x)") =
      some ⟨true, ⟨3, some ')', []⟩, .list [.text "x", .null]⟩ ∧
    ([.text "x", .null] : List Value).length ≤ max 1 1 + (3 - 0) := by
  obtain ⟨p, hp⟩ := exists_compile_of_isSome
    (by decide +kernel : (Parser.compile .sampleEndless 3).toOption.isSome)
  have hleft : p.run "left" "xx" = .error (Cause.recursionLimit 3) := by
    rw [run_eq_call hp]
    decide +kernel
  have hstars : p.run "stars" "xx" = .ok ⟨true, 2, .list [.text "xx", .text ""]⟩ := by
    rw [run_eq_call hp]
    decide +kernel
  have hlist : (sampleList none).step Node.matchTerminal (sample.call 3) (.start "(x)") =
      some ⟨true, ⟨3, some ')', []⟩, .list [.text "x", .null]⟩ := by
    decide +kernel
  obtain ⟨log, hlog, -⟩ := (run_ends p "left" "xx").1
  obtain ⟨more, hmore, hwithin⟩ := (run_ends p "stars" "xx").1
  obtain ⟨values, hvalues, hle⟩ := (run_ends sample "expr" "(x)").2.2 3 _ _ 1 none _ _
    (Cursor.at_start "(x)") hlist rfl
  cases hvalues
  exact ⟨p, log, more, hp, hleft, hleft ▸ hlog, hstars, hstars ▸ hmore, hwithin,
    Cursor.at_start "(x)", hlist, hle⟩

end DataGrammar
