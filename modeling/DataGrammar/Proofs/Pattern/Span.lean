import DataGrammar.Pattern
import DataGrammar.Proofs.Pattern.Layout

/-!
# The span of the capture group

What a match gives can be cut out of the text: the match ends in the text, and the capture group
starts before it ends and ends in the match. That the group does not end before it starts is not a
matter of course, since a group that is matched again has its start recorded first.

* `Thread.Fits` is what holds of the threads of a marked program: inside of the group its start is
  recorded, and outside of it its start and end are, or its end is not;
* `Program.fits_walk`: a walk keeps it;
* `Program.within_run`: a match has a proper span;
* `within_matchAt?`: so do the matches of compiled patterns.
-/

namespace DataGrammar.Pattern

variable {inside : Nat → Option Bool} {passed : Nat}

/-! ### Slots and threads -/

/-- What is recorded after `passed` characters, inside of the group or outside of it. -/
def Slots.Fits (slots : Slots) (passed : Nat) : (here : Bool) → Prop
  | true => ∃ first, slots.opening = some first ∧ first ≤ passed
  | false => ∀ last, slots.closing = some last →
      last ≤ passed ∧ ∃ first, slots.opening = some first ∧ first ≤ last

theorem Slots.Fits.mono {slots : Slots} {passed' : Nat} {here : Bool} (h : passed ≤ passed')
    (hs : slots.Fits passed here) : slots.Fits passed' here := by
  cases here with
  | true =>
    obtain ⟨first, ho, hf⟩ := hs
    exact ⟨first, ho, Nat.le_trans hf h⟩
  | false =>
    intro last hl
    obtain ⟨hle, hfirst⟩ := hs last hl
    exact ⟨Nat.le_trans hle h, hfirst⟩

/-- Where the group is closed its start is recorded. -/
theorem Slots.Fits.closing {slots : Slots} {here : Bool} (hs : slots.Fits passed true) :
    Slots.Fits { slots with closing := some passed } passed here := by
  obtain ⟨first, ho, hf⟩ := hs
  cases here with
  | true => exact ⟨first, ho, hf⟩
  | false =>
    rintro _ ⟨⟩
    exact ⟨Nat.le_refl _, first, ho, hf⟩

/-- The thread is where its slots say. -/
def Thread.Fits (inside : Nat → Option Bool) (passed : Nat) (t : Thread) : Prop :=
  ∃ here, inside t.address = some here ∧ t.slots.Fits passed here

/-- The instructions of a program respect the marks. -/
def Program.Respects (p : Program) (inside : Nat → Option Bool) : Prop :=
  ∀ (address : Nat) (instruction : Instruction),
    p.code[address]? = some instruction → instruction.Respects inside address

namespace Program

/-! ### Walking -/

/-- **A walk keeps the slots where they belong.** -/
theorem fits_walk {p : Program} (hp : p.Respects inside) (behind ahead : Option Char)
    (fuel : Nat) {todo waiting : List Thread} (seen : Seen)
    (ht : ∀ t ∈ todo, t.Fits inside passed) (hw : ∀ t ∈ waiting, t.Fits inside passed) :
    ∀ t ∈ p.walk behind ahead passed fuel todo seen waiting, t.Fits inside passed := by
  induction fuel generalizing todo seen waiting with
  | zero => simpa only [walk] using hw
  | succ fuel ih =>
    cases todo with
    | nil => simpa only [walk] using hw
    | cons t todo =>
      obtain ⟨⟨here, hin, hs⟩, htodo⟩ := List.forall_mem_cons.1 ht
      rw [walk]
      split
      · exact ih _ htodo hw
      -- one case for each instruction, by where it leads
      simp only
      split
      · exact ih _ htodo hw
      · exact ih _ htodo (List.forall_mem_cons.2 ⟨⟨here, hin, hs⟩, hw⟩)
      · exact ih _ htodo (List.forall_mem_cons.2 ⟨⟨here, hin, hs⟩, hw⟩)
      · next nexts hcode =>
        refine ih _ (List.forall_mem_append.2 ⟨?_, htodo⟩) hw
        rintro _ hmem
        obtain ⟨next, hn, rfl⟩ := List.mem_map.1 hmem
        exact ⟨here, hp _ _ hcode here hin next hn, hs⟩
      · next condition next hcode =>
        split
        · exact ih _ (List.forall_mem_cons.2 ⟨⟨here, hp _ _ hcode here hin, hs⟩, htodo⟩) hw
        · exact ih _ htodo hw
      · next next hcode =>
        have hnext : Thread.Fits inside passed ⟨next, { t.slots with opening := some passed }⟩ :=
          ⟨true, hp _ _ hcode here hin, passed, rfl, Nat.le_refl _⟩
        exact ih _ (List.forall_mem_cons.2 ⟨hnext, htodo⟩) hw
      · next next hcode =>
        obtain ⟨rfl, there, hthere⟩ := hp _ _ hcode here hin
        have hnext : Thread.Fits inside passed ⟨next, { t.slots with closing := some passed }⟩ :=
          ⟨there, hthere, hs.closing⟩
        exact ih _ (List.forall_mem_cons.2 ⟨hnext, htodo⟩) hw

theorem fits_reach {p : Program} (hp : p.Respects inside) (behind ahead : Option Char)
    {threads : List Thread} (ht : ∀ t ∈ threads, t.Fits inside passed) :
    ∀ t ∈ p.reach behind ahead passed threads, t.Fits inside passed := by
  intro t hmem
  exact fits_walk hp behind ahead _ _ ht (by simp) t (List.mem_reverse.1 hmem)

theorem fits_step? {p : Program} (hp : p.Respects inside) {c : Char} {t t' : Thread}
    (ht : t.Fits inside passed) (h : p.step? c t = some t') : t'.Fits inside (passed + 1) := by
  obtain ⟨here, hin, hs⟩ := ht
  unfold step? at h
  split at h
  · next set next hcode =>
    split at h
    · cases h
      exact ⟨here, hp _ _ hcode here hin, hs.mono passed.le_succ⟩
    · cases h
  · cases h

/-- A thread that accepts stands outside of the group. -/
theorem fits_of_accepts {p : Program} (hp : p.Respects inside) {t : Thread}
    (ht : t.Fits inside passed) (h : p.accepts t) : t.slots.Fits passed false := by
  obtain ⟨here, hin, hs⟩ := ht
  unfold accepts at h
  split at h
  · next hcode =>
    obtain rfl : here = false := hp _ _ hcode here hin
    exact hs
  · cases h

end Program

/-! ### Matches -/

/-- The match ends within `length` characters, and the group lies in it. -/
structure Match.Within (m : Match) (length : Nat) : Prop where
  length_le : m.length ≤ length
  fits : m.slots.Fits m.length false

theorem Match.Within.group? {m : Match} {length first last : Nat} (h : m.Within length)
    (hg : m.group? = some (first, last)) : first ≤ last ∧ last ≤ m.length := by
  unfold Match.group? at hg
  obtain ⟨first', ho, hg⟩ := Option.bind_eq_some_iff.1 hg
  obtain ⟨last', hc, hg⟩ := Option.map_eq_some_iff.1 hg
  cases hg
  obtain ⟨hle, first', ho', hf⟩ := h.fits _ hc
  rw [ho] at ho'
  cases ho'
  exact ⟨hf, hle⟩

namespace Program

/-- The best match after `passed` characters: that of the first thread that accepts, if any. -/
theorem within_best {p : Program} (hp : p.Respects inside) {length : Nat} (hl : passed ≤ length)
    {threads : List Thread} (ht : ∀ t ∈ threads, t.Fits inside passed) {best : Option Match}
    (hbest : ∀ m ∈ best, m.Within length) :
    ∀ m ∈ (match threads.find? p.accepts with
      | some t => some (⟨passed, t.slots⟩ : Match)
      | none => best), m.Within length := by
  split
  · next t hfind =>
    rintro _ ⟨⟩
    have hfits := ht t (List.mem_of_find?_eq_some hfind)
    exact ⟨hl, fits_of_accepts hp hfits (List.find?_some hfind)⟩
  · exact hbest

/-- **A match of a marked program has a proper span.** -/
theorem within_run {p : Program} (hp : p.Respects inside) {ahead : List Char}
    {behind : Option Char} {threads : List Thread} (ht : ∀ t ∈ threads, t.Fits inside passed)
    {best : Option Match} (hbest : ∀ m ∈ best, m.Within (passed + ahead.length)) :
    ∀ m ∈ p.run ahead behind passed threads best, m.Within (passed + ahead.length) := by
  induction ahead generalizing behind passed threads best with
  | nil => exact within_best hp (Nat.le_add_right _ _) (fits_reach hp behind none ht) hbest
  | cons c rest ih =>
    have hreach := fits_reach hp behind (some c) ht
    have hbest := within_best hp (Nat.le_add_right _ _) hreach hbest
    rw [run]
    split
    · exact hbest
    · rw [List.length_cons, Nat.add_comm rest.length, ← Nat.add_assoc] at hbest ⊢
      refine ih (fun t' hmem => ?_) hbest
      obtain ⟨t, hmem, hstep⟩ := List.mem_filterMap.1 hmem
      exact fits_step? hp (hreach t ((List.takeWhile_sublist _).subset hmem)) hstep

end Program

/-- A compiled pattern runs the program of an expression. -/
theorem compile_program {source : String} {p : Pattern} (h : compile source = .ok p) :
    ∃ e, p.program = .ofExpression e := by
  unfold compile at h
  cases ht : Tree.ofText source with
  | error refusal => simp [ht, bind, Except.bind] at h
  | ok tree =>
    cases hm : tree.meaning .initial with
    | error refusal => simp [ht, hm, bind, Except.bind] at h
    | ok meaning =>
      simp only [ht, hm, bind, Except.bind, ofExpression] at h
      split at h
      · cases h
      · cases h
        exact ⟨_, rfl⟩

/-- **What a compiled pattern matches lies in the text ahead, and its group in the match.** -/
theorem within_matchAt? {source : String} {p : Pattern} (h : compile source = .ok p) {c : Cursor}
    {m : Match} (hm : p.matchAt? c = some m) : m.Within c.ahead.length := by
  obtain ⟨e, he⟩ := compile_program h
  obtain ⟨inside, hstart, hp⟩ := Program.exists_marking e
  rw [matchAt?, he, Program.match?] at hm
  have ht : ∀ t ∈ [(⟨0, ⟨none, none⟩⟩ : Thread)], t.Fits inside 0 := by
    simp only [List.forall_mem_singleton]
    exact ⟨false, hstart, nofun⟩
  have hrun := Program.within_run hp ht (by simp) m hm
  rwa [Nat.zero_add] at hrun

end DataGrammar.Pattern
