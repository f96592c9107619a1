import DataGrammar.Proofs.Depth.Saturation
import Mathlib.Data.Finset.Prod
import Mathlib.Order.Lattice.Nat

/-!
# Entering a rule again at the same place

`Parser.tracedRun` is a run that writes down every reference that it follows, with the references
that are active at that moment. A reference to a rule that is already active at the same offset
is a re-entry: nothing was consumed in between.

* A run that comes to an end has no re-entry. Whatever number of references suffices for a
  reference, fewer suffice for those below it (`Parser.rank`), so that none of them is itself.
* A run that `Parser.saturation` references do not suffice for has a re-entry: there are more
  active references than there are pairs of a rule and an offset.
* `Parser.run_saturation` puts this together: it is re-entry, not the depth of the input, that
  no limit is enough for.
-/

namespace DataGrammar

/-- A reference that is followed: the rule, and the offset at which it stands. -/
structure Visit (n : Nat) where
  rule : Fin n
  offset : Nat
  deriving DecidableEq, Repr

/-- A visit, and the visits that were active when it began, the innermost first. -/
structure Entry (n : Nat) where
  visit : Visit n
  active : List (Visit n)
  deriving DecidableEq, Repr

/-- The rule was already active at this offset. -/
def Entry.IsReentry {n : Nat} (e : Entry n) : Prop := e.visit ∈ e.active

instance {n : Nat} (e : Entry n) : Decidable e.IsReentry := inferInstanceAs (Decidable (_ ∈ _))

/-- Computations that write down visits, the latest first; what is written outlives a run that is
aborted. -/
abbrev Traced (n : Nat) := OptionT (StateM (List (Entry n)))

namespace Traced

variable {n : Nat} {α β : Type} {log log' : List (Entry n)}

/-- The result of a computation, and what is written down after it. -/
def after (x : Traced n α) (log : List (Entry n)) : Option α × List (Entry n) :=
  (x.run.run log).run

/-- Write a visit down. -/
def note (e : Entry n) : Traced n Unit := modify (e :: ·)

@[simp] theorem after_pure (a : α) : after (pure a) log = (some a, log) := rfl

@[simp] theorem after_note (e : Entry n) : after (note e) log = (some (), e :: log) := rfl

theorem after_bind_some {x : Traced n α} {f : α → Traced n β} {a : α}
    (h : after x log = (some a, log')) : after (x >>= f) log = after (f a) log' := by
  simp only [after] at h ⊢
  simp only [OptionT.run_bind, Option.elimM, StateT.run_bind, Id.run_bind, h]
  rfl

theorem after_bind_none {x : Traced n α} {f : α → Traced n β}
    (h : after x log = (none, log')) : after (x >>= f) log = (none, log') := by
  simp only [after] at h ⊢
  simp only [OptionT.run_bind, Option.elimM, StateT.run_bind, Id.run_bind, h]
  rfl

end Traced

namespace Parser

/-- Run a rule by reference, with `depth` references left, below the visits `active`. -/
def tracedCall (p : Parser) : (depth : Nat) → (active : List (Visit p.size)) → Fin p.size →
    Step (Traced p.size)
  | 0, active, rule => fun c => do
    Traced.note ⟨⟨rule, c.offset⟩, active⟩
    failure
  | depth + 1, active, rule => fun c => do
    Traced.note ⟨⟨rule, c.offset⟩, active⟩
    (p.node rule).step Node.matchTerminal (p.tracedCall depth (⟨rule, c.offset⟩ :: active)) c

/-- Match a rule at the start of an input, and tell which references were followed. -/
def tracedRun (p : Parser) (rule input : String) :
    Except Diagnostic Outcome × List (Entry p.size) :=
  match p.find? rule with
  | none => (.error (Cause.unknownRule rule), [])
  | some index =>
    let (result, log) := Traced.after
      ((p.node index).step Node.matchTerminal (p.tracedCall p.maxDepth []) (.start input)) []
    match result with
    | none => (.error (Cause.recursionLimit p.maxDepth), log)
    | some a => (.ok (.ofAttempt a), log)

variable {text : String}

/-! ### Runs that come to an end -/

/-- How many references suffice for a visit. -/
noncomputable def rank (p : Parser) (text : String) (v : Visit p.size) : Nat :=
  sInf {k | ∃ c, Cursor.At text c ∧ c.offset = v.offset ∧ (p.call k v.rule c).isSome}

variable {p : Parser} {k : Nat} {rule : Fin p.size} {c : Cursor} {a : Attempt}

theorem rank_le (hc : c.At text) (h : p.call k rule c = some a) :
    p.rank text ⟨rule, c.offset⟩ ≤ k :=
  Nat.sInf_le ⟨c, hc, rfl, Option.isSome_iff_exists.2 ⟨a, h⟩⟩

/-- As many references as the rank give the attempt. -/
theorem call_rank (hc : c.At text) (h : p.call k rule c = some a) :
    p.call (p.rank text ⟨rule, c.offset⟩) rule c = some a := by
  have hne : {k | ∃ d, Cursor.At text d ∧ d.offset = c.offset ∧ (p.call k rule d).isSome}.Nonempty :=
    ⟨k, c, hc, rfl, Option.isSome_iff_exists.2 ⟨a, h⟩⟩
  obtain ⟨d, hd, ho, hs⟩ := Nat.sInf_mem hne
  obtain ⟨b, hb⟩ := Option.isSome_iff_exists.1 hs
  rw [hd.eq_of_offset_eq hc ho] at hb
  have hb' := (p.agree_call_mono (rank_le hc h) rule c hc b hb).1
  rw [h] at hb'
  cases hb'
  exact hb

end Parser

/-- What ends on the left does the same on the right, without a re-entry. -/
def Lockstep.fresh (n : Nat) : Lockstep Option (Traced n) where
  Holds P x y := ∀ a, x = some a → P a ∧
    ∀ log, ∃ new, y.after log = (some a, new ++ log) ∧ ∀ e ∈ new, ¬ e.IsReentry
  holds_pure := by
    rintro α P a h _ ⟨⟩
    exact ⟨h, fun log => ⟨[], rfl, by simp⟩⟩
  holds_bind := by
    intro α β P Q x y f g hx hf b hb
    obtain ⟨a, ha, hb⟩ := Option.bind_eq_some_iff.1 hb
    obtain ⟨hP, hx⟩ := hx a ha
    obtain ⟨hQ, hg⟩ := hf a hP b hb
    refine ⟨hQ, fun log => ?_⟩
    obtain ⟨new, hn, hfresh⟩ := hx log
    obtain ⟨new', hn', hfresh'⟩ := hg (new ++ log)
    refine ⟨new' ++ new, ?_, fun e he => ?_⟩
    · rw [Traced.after_bind_some hn, hn', List.append_assoc]
    · exact (List.mem_append.1 he).elim (hfresh' e) (hfresh e)

namespace Parser

variable {text : String}

/-- **Where fewer references suffice than for all that are active, there is no re-entry.** -/
theorem agree_tracedCall_fresh (p : Parser) {k depth : Nat} (hk : k ≤ depth)
    (active : List (Visit p.size)) (h : ∀ v ∈ active, k < p.rank text v) (rule : Fin p.size) :
    Step.Agree (.fresh p.size) text (p.call k rule) (p.tracedCall depth active rule) := by
  induction depth generalizing k active rule with
  | zero =>
    intro c hc a ha
    obtain rfl : k = 0 := by omega
    cases ha
  | succ depth ih =>
    intro c hc a ha
    have hle := rank_le hc ha
    have hcall := call_rank hc ha
    obtain ⟨k', hk'⟩ : ∃ k', p.rank text ⟨rule, c.offset⟩ = k' + 1 := by
      cases hr : p.rank text ⟨rule, c.offset⟩ with
      | zero =>
        rw [hr] at hcall
        cases hcall
      | succ k' => exact ⟨k', rfl⟩
    rw [hk'] at hcall
    -- the body comes to an end with `k'` references, one fewer than its rule has to have
    have hbelow : ∀ v ∈ (⟨rule, c.offset⟩ :: active : List (Visit p.size)),
        k' < p.rank text v := by
      intro v hv
      rcases List.mem_cons.1 hv with rfl | hv
      · omega
      · have := h v hv
        omega
    obtain ⟨hreach, hbody⟩ := Node.agree_step_of_call
      (fun r => ih (by omega) _ hbelow r) (p.node rule) c hc a hcall
    refine ⟨hreach, fun log => ?_⟩
    obtain ⟨new, hn, hfresh⟩ := hbody (⟨⟨rule, c.offset⟩, active⟩ :: log)
    refine ⟨new ++ [⟨⟨rule, c.offset⟩, active⟩], ?_, fun e he => ?_⟩
    · simp only [tracedCall, Traced.after_bind_some (Traced.after_note _), hn, List.append_assoc,
        List.singleton_append]
    · rcases List.mem_append.1 he with he | he
      · exact hfresh e he
      · rw [List.mem_singleton.1 he]
        intro hv
        have hlt : k < p.rank text ⟨rule, c.offset⟩ := h _ hv
        omega

end Parser

/-! ### Runs that are aborted -/

/-- A list that is not free of duplicates has an element that occurs again behind it. -/
theorem exists_suffix_mem_of_not_nodup {α : Type} {l : List α} (h : ¬ l.Nodup) :
    ∃ v vs, v :: vs <:+ l ∧ v ∈ vs := by
  induction l with
  | nil => exact absurd List.nodup_nil h
  | cons x xs ih =>
    by_cases hx : x ∈ xs
    · exact ⟨x, xs, List.suffix_refl _, hx⟩
    · have hxs : ¬ xs.Nodup := fun hn => h (List.nodup_cons.2 ⟨hx, hn⟩)
      obtain ⟨v, vs, hs, hv⟩ := ih hxs
      exact ⟨v, vs, hs.trans (List.suffix_cons x xs), hv⟩

/-- There are only so many different visits below an offset. -/
theorem Visit.length_le_of_nodup {n bound : Nat} {visits : List (Visit n)} (hd : visits.Nodup)
    (h : ∀ v ∈ visits, v.offset ≤ bound) : visits.length ≤ n * (bound + 1) := by
  let pairs : Finset (Fin n × Nat) := Finset.univ ×ˢ Finset.range (bound + 1)
  have hsub : visits.toFinset ⊆ pairs.image fun q => ⟨q.1, q.2⟩ := by
    intro v hv
    have := h v (List.mem_toFinset.1 hv)
    exact Finset.mem_image.2 ⟨(v.rule, v.offset), by simp [pairs]; omega, rfl⟩
  calc visits.length = visits.toFinset.card := (List.toFinset_card_of_nodup hd).symm
    _ ≤ (pairs.image fun q => (⟨q.1, q.2⟩ : Visit n)).card := Finset.card_le_card hsub
    _ ≤ pairs.card := Finset.card_image_le
    _ = n * (bound + 1) := by simp [pairs]

/-- Every active visit was written down when it began. -/
def Noted {n : Nat} (active : List (Visit n)) (log : List (Entry n)) : Prop :=
  ∀ v vs, v :: vs <:+ active → ⟨v, vs⟩ ∈ log

theorem Noted.append {n : Nat} {active : List (Visit n)} {log : List (Entry n)}
    (h : Noted active log) (new : List (Entry n)) : Noted active (new ++ log) :=
  fun v vs hs => List.mem_append_right new (h v vs hs)

theorem Noted.cons {n : Nat} {active : List (Visit n)} {log : List (Entry n)}
    (h : Noted active log) (visit : Visit n) :
    Noted (visit :: active) (⟨visit, active⟩ :: log) := by
  intro v vs hs
  rcases List.suffix_cons_iff.1 hs with he | hs
  · cases he
    exact List.mem_cons_self ..
  · exact List.mem_cons_of_mem _ (h v vs hs)

/-- More active visits than there are pairs hold a re-entry. -/
theorem Noted.exists_reentry {n : Nat} {active : List (Visit n)} {log : List (Entry n)}
    (h : Noted active log) (bound : Nat) (hb : ∀ v ∈ active, v.offset ≤ bound)
    (hl : n * (bound + 1) < active.length) : ∃ e ∈ log, e.IsReentry := by
  have hd : ¬ active.Nodup := fun hd => by
    have := Visit.length_le_of_nodup hd hb
    omega
  obtain ⟨v, vs, hs, hv⟩ := exists_suffix_mem_of_not_nodup hd
  exact ⟨⟨v, vs⟩, h v vs hs, hv⟩

/-- A run below the visits `active` and the same run written down. If it is aborted although
there are `enough` references, there was a re-entry. -/
def Lockstep.tracing {n : Nat} (enough : Prop) (active : List (Visit n)) :
    Lockstep Option (Traced n) where
  Holds P x y := ∀ log, Noted active log → match x with
    | some a => P a ∧ ∃ new, y.after log = (some a, new ++ log)
    | none => ∃ log', y.after log = (none, log') ∧ (enough → ∃ e ∈ log', e.IsReentry)
  holds_pure := by
    intro α P a h log _
    exact ⟨h, [], rfl⟩
  holds_bind := by
    intro α β P Q x y f g hx hf log hlog
    have hx := hx log hlog
    cases x with
    | none =>
      obtain ⟨log', hn, he⟩ := hx
      exact ⟨log', Traced.after_bind_none hn, he⟩
    | some a =>
      obtain ⟨hP, new, hn⟩ := hx
      have hg := hf a hP (new ++ log) (hlog.append new)
      rw [Option.bind_eq_bind, Option.bind_some, Traced.after_bind_some hn]
      split at hg
      · obtain ⟨hQ, new', hn'⟩ := hg
        exact ⟨hQ, new' ++ new, by rw [hn', List.append_assoc]⟩
      · exact hg

namespace Parser

variable {text : String}

/-- **A run that is written down is the same run**, and where it is aborted with so many active
references that they exceed `saturation`, there was a re-entry. -/
theorem agree_tracedCall (p : Parser) {limit depth : Nat} (active : List (Visit p.size))
    (hl : active.length + depth = limit) (hb : ∀ v ∈ active, v.offset ≤ text.utf8ByteSize)
    (rule : Fin p.size) :
    Step.Agree (.tracing (p.saturation text ≤ limit) active) text (p.call depth rule)
      (p.tracedCall depth active rule) := by
  induction depth generalizing active rule with
  | zero =>
    intro c hc log hlog
    refine ⟨⟨⟨rule, c.offset⟩, active⟩ :: log, Traced.after_bind_some (Traced.after_note _),
      fun henough => ?_⟩
    refine (hlog.cons ⟨rule, c.offset⟩).exists_reentry text.utf8ByteSize ?_ ?_
    · simpa using ⟨hc.offset_le, hb⟩
    · rw [saturation] at henough
      rw [List.length_cons]
      omega
  | succ depth ih =>
    intro c hc log hlog
    have hbody := Node.agree_step_of_call
      (fun r => ih (⟨rule, c.offset⟩ :: active) (by rw [List.length_cons]; omega)
        (by simpa using ⟨hc.offset_le, hb⟩) r) (p.node rule) c hc _ (hlog.cons ⟨rule, c.offset⟩)
    simp only [call, tracedCall, Traced.after_bind_some (Traced.after_note _)]
    split at hbody
    · obtain ⟨hreach, new, hn⟩ := hbody
      exact ⟨hreach, new ++ [⟨⟨rule, c.offset⟩, active⟩], by simp [hn]⟩
    · exact hbody

/-! ### Whole runs -/

/-- The run that is written down is the run. -/
theorem tracedRun_fst (p : Parser) (rule input : String) :
    (p.tracedRun rule input).1 = p.run rule input := by
  unfold tracedRun run
  cases p.find? rule with
  | none => rfl
  | some index =>
    have h := Node.agree_step_of_call
      (p.agree_tracedCall [] (Nat.zero_add p.maxDepth) (by simp)) (p.node index)
      (.start input) (Cursor.at_start input) [] (fun v vs hs => by simp at hs)
    split at h
    · next a ha =>
      obtain ⟨-, new, hn⟩ := h
      simp only [ha, hn]
    · next ha =>
      obtain ⟨log', hn, -⟩ := h
      simp only [ha, hn]

/-- A run with an outcome has no re-entry. -/
theorem not_isReentry_of_run {p : Parser} {rule input : String} {o : Outcome}
    (h : p.run rule input = .ok o) : ∀ e ∈ (p.tracedRun rule input).2, ¬ e.IsReentry := by
  obtain ⟨index, a, hi, ha, -⟩ := run_eq_ok_iff.1 h
  obtain ⟨-, hlog⟩ := Node.agree_step_of_call
    (p.agree_tracedCall_fresh (le_refl p.maxDepth) [] (by simp)) (p.node index)
    (.start input) (Cursor.at_start input) a ha
  obtain ⟨new, hn, hfresh⟩ := hlog []
  rw [List.append_nil] at hn
  simpa only [tracedRun, hi, hn] using hfresh

/-- A run that `saturation` references do not suffice for has a re-entry. -/
theorem exists_reentry_of_run {p : Parser} {rule input : String}
    (hs : p.saturation input ≤ p.maxDepth)
    (h : p.run rule input = .error (Cause.recursionLimit p.maxDepth)) :
    ∃ e ∈ (p.tracedRun rule input).2, e.IsReentry := by
  obtain ⟨index, hi, ha⟩ := run_eq_limit_iff.1 h
  have h := Node.agree_step_of_call
    (p.agree_tracedCall [] (Nat.zero_add p.maxDepth) (by simp)) (p.node index)
    (.start input) (Cursor.at_start input) [] (fun v vs hs => by simp at hs)
  rw [ha] at h
  obtain ⟨log', hn, hlog⟩ := h
  simpa only [tracedRun, hi, hn] using hlog (by simpa using hs)

/-- **The limit saturates.** A run that is aborted with a limit of `saturation` is aborted with
every greater limit, and there is a re-entry in it. A run that has an outcome under whatever
limit has the same one with `saturation`, and no reference in it enters a rule that is active at
the same offset. -/
theorem run_saturation (p : Parser) (rule input : String) :
    (∀ d, p.saturation input ≤ d →
      (p.withMaxDepth (p.saturation input)).run rule input =
        .error (Cause.recursionLimit (p.saturation input)) →
      (p.withMaxDepth d).run rule input = .error (Cause.recursionLimit d) ∧
        ∃ e ∈ ((p.withMaxDepth d).tracedRun rule input).2, e.IsReentry) ∧
    (∀ d o, (p.withMaxDepth d).run rule input = .ok o →
      (p.withMaxDepth (p.saturation input)).run rule input = .ok o ∧
        ∀ e ∈ ((p.withMaxDepth d).tracedRun rule input).2, ¬ e.IsReentry) ∧
    (∀ d, ((p.withMaxDepth d).tracedRun rule input).1 = (p.withMaxDepth d).run rule input) := by
  refine ⟨fun d hd habort => ?_, fun d o ho => ⟨?_, not_isReentry_of_run ho⟩,
    fun d => tracedRun_fst _ rule input⟩
  · obtain ⟨index, hi, ha⟩ := run_withMaxDepth_eq_limit_iff.1 habort
    rw [p.step_saturation (Cursor.at_start input) hd] at ha
    have hrun := run_withMaxDepth_eq_limit_iff.2 ⟨index, hi, ha⟩
    exact ⟨hrun, exists_reentry_of_run hd hrun⟩
  · rcases le_total d (p.saturation input) with hd | hd
    · exact run_mono hd ho
    · obtain ⟨index, a, hi, ha, rfl⟩ := run_withMaxDepth_eq_ok_iff.1 ho
      rw [← p.step_saturation (Cursor.at_start input) hd] at ha
      exact run_withMaxDepth_eq_ok_iff.2 ⟨index, a, hi, ha, rfl⟩

theorem run_saturation_sample :
    sample.saturation "(x)" = 8 ∧
    (sample.withMaxDepth 8).run "loop" "(x)" = .error (Cause.recursionLimit 8) ∧
    (sample.withMaxDepth 20).run "loop" "(x)" = .error (Cause.recursionLimit 20) ∧
    (∃ e ∈ ((sample.withMaxDepth 20).tracedRun "loop" "(x)").2, e.IsReentry) ∧
    (sample.withMaxDepth 1).run "expr" "(x)" = .ok ⟨true, 3, .text "x"⟩ ∧
    (sample.withMaxDepth 8).run "expr" "(x)" = .ok ⟨true, 3, .text "x"⟩ := by
  have hs : sample.saturation "(x)" = 8 := by decide +kernel
  have hlimit : (sample.withMaxDepth 8).run "loop" "(x)" = .error (Cause.recursionLimit 8) := by
    decide +kernel
  have hok : (sample.withMaxDepth 1).run "expr" "(x)" = .ok ⟨true, 3, .text "x"⟩ := by
    decide +kernel
  have hloop := (run_saturation sample "loop" "(x)").1 20
  have hexpr := (run_saturation sample "expr" "(x)").2.1 1 _ hok
  rw [hs] at hloop hexpr
  have hloop := hloop (by decide) hlimit
  exact ⟨hs, hlimit, hloop.1, hloop.2, hok, hexpr.1⟩

end Parser
end DataGrammar
