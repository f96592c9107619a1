import DataGrammar.Pattern.Search
import Mathlib.Data.List.Basic
import Mathlib.Order.Nat
import Mathlib.Tactic.Common

/-!
# A search finds the preferred match

A thread of a program, followed on its own with every fork tried in order, comes to a match or to
nothing: `Program.Leads` says to what. A search does not follow threads one after the other. It
moves all of them over the text at once and walks no instruction twice at one place. That it still
finds what the first thread that succeeds comes to is shown here.

* `Program.Leads p place goal steps r`: from the goal, the program leads to `r`; `steps`
  instructions are walked before one passes a character or accepts.
* `Program.leads_walk`: a walk keeps the first thread that succeeds, and `Program.run_of_leads` a
  run.
* `Program.match?_of_leads`: a search finds what the start of the program leads to.
-/

namespace DataGrammar.Pattern

/-- A place during a match. -/
structure Place where
  /-- The character behind it. -/
  behind : Option Char
  /-- The characters ahead. -/
  ahead : List Char
  /-- The characters from the start of the match up to it. -/
  passed : Nat
  deriving DecidableEq, Repr

/-- What a thread comes to: nothing, or a match once it is known what was recorded before. -/
abbrev Ending := Option (Slots → Match)

/-- The ending before the start of the group is recorded after `passed` characters. -/
def Ending.opening (passed : Nat) (r : Ending) : Ending :=
  r.map fun found slots => found { slots with opening := some passed }

/-- The ending before the end of the group is recorded after `passed` characters. -/
def Ending.closing (passed : Nat) (r : Ending) : Ending :=
  r.map fun found slots => found { slots with closing := some passed }

/-- Where a thread goes on: at an address, or at the first of some that leads to a match. -/
inductive Goal where
  | one (address : Nat)
  | first (addresses : List Nat)

namespace Program

/-- What the program leads to from a goal at a place, and after how many instructions that pass no
character. -/
inductive Leads (p : Program) : Place → Goal → (steps : Nat) → Ending → Prop
  | absent {place address} (h : p.code[address]? = none) : Leads p place (.one address) 0 none
  | accept {place address} (h : p.code[address]? = some .accept) :
    Leads p place (.one address) 0 (some fun slots => ⟨place.passed, slots⟩)
  | pass {behind c rest passed address set next steps r}
    (h : p.code[address]? = some (.char set next)) (hc : set.contains c = true)
    (hr : Leads p ⟨some c, rest, passed + 1⟩ (.one next) steps r) :
    Leads p ⟨behind, c :: rest, passed⟩ (.one address) 0 r
  | stuck {place address set next} (h : p.code[address]? = some (.char set next))
    (hc : ∀ c ∈ place.ahead.head?, set.contains c = false) : Leads p place (.one address) 0 none
  | fork {place address nexts steps r} (h : p.code[address]? = some (.fork nexts))
    (hr : Leads p place (.first nexts) steps r) : Leads p place (.one address) (steps + 1) r
  | check {place address condition next steps r}
    (h : p.code[address]? = some (.check condition next))
    (hc : condition.holds place.behind place.ahead.head? = true)
    (hr : Leads p place (.one next) steps r) : Leads p place (.one address) (steps + 1) r
  | refuse {place address condition next} (h : p.code[address]? = some (.check condition next))
    (hc : condition.holds place.behind place.ahead.head? = false) :
    Leads p place (.one address) 0 none
  | opening {place address next steps r s} (h : p.code[address]? = some (.opening next))
    (hr : Leads p place (.one next) steps r) (hs : s = Ending.opening place.passed r) :
    Leads p place (.one address) (steps + 1) s
  | closing {place address next steps r s} (h : p.code[address]? = some (.closing next))
    (hr : Leads p place (.one next) steps r) (hs : s = Ending.closing place.passed r) :
    Leads p place (.one address) (steps + 1) s
  | nil {place} : Leads p place (.first []) 0 none
  | found {place address addresses steps found}
    (h : Leads p place (.one address) steps (some found)) :
    Leads p place (.first (address :: addresses)) steps (some found)
  | next {place address addresses steps steps' r} (h : Leads p place (.one address) steps none)
    (hr : Leads p place (.first addresses) steps' r) :
    Leads p place (.first (address :: addresses)) steps' r

/-- The program leads to nothing. -/
def Fails (p : Program) (place : Place) (address : Nat) : Prop :=
  ∃ steps, p.Leads place (.one address) steps none

variable {p : Program} {place : Place} {goal : Goal} {steps steps' : Nat} {r r' : Ending}

/-- **What a program leads to is determined.** -/
theorem Leads.unique (h : p.Leads place goal steps r) (h' : p.Leads place goal steps' r') :
    steps = steps' ∧ r = r' := by
  induction h generalizing steps' r' with
  | absent h => cases h' <;> simp_all
  | accept h => cases h' <;> simp_all
  | pass h hc hr ih =>
    cases h' with
    | pass h' hc' hr' =>
      cases Option.some.inj (h.symm.trans h')
      exact ⟨rfl, (ih hr').2⟩
    | stuck h' hc' =>
      cases Option.some.inj (h.symm.trans h')
      simp_all
    | _ => simp_all
  | stuck h hc =>
    cases h' with
    | pass h' hc' hr' =>
      cases Option.some.inj (h.symm.trans h')
      simp_all
    | _ => simp_all
  | fork h hr ih =>
    cases h' with
    | fork h' hr' =>
      cases Option.some.inj (h.symm.trans h')
      obtain ⟨rfl, rfl⟩ := ih hr'
      exact ⟨rfl, rfl⟩
    | _ => simp_all
  | check h hc hr ih =>
    cases h' with
    | check h' hc' hr' =>
      cases Option.some.inj (h.symm.trans h')
      obtain ⟨rfl, rfl⟩ := ih hr'
      exact ⟨rfl, rfl⟩
    | _ => simp_all
  | refuse h hc => cases h' <;> simp_all
  | opening h hr hs ih =>
    cases h' with
    | opening h' hr' hs' =>
      cases Option.some.inj (h.symm.trans h')
      obtain ⟨rfl, rfl⟩ := ih hr'
      exact ⟨rfl, hs.trans hs'.symm⟩
    | _ => simp_all
  | closing h hr hs ih =>
    cases h' with
    | closing h' hr' hs' =>
      cases Option.some.inj (h.symm.trans h')
      obtain ⟨rfl, rfl⟩ := ih hr'
      exact ⟨rfl, hs.trans hs'.symm⟩
    | _ => simp_all
  | nil =>
    cases h'
    exact ⟨rfl, rfl⟩
  | found h ih =>
    cases h' with
    | found h' => exact ih h'
    | next h' hr' => cases (ih h').2
  | next h hr ih ihr =>
    cases h' with
    | found h' => cases (ih h').2
    | next h' hr' => exact ihr hr'

/-! ### What threads lead to -/

theorem Leads.not_fails {address : Nat} {found : Slots → Match}
    (h : p.Leads place (.one address) steps (some found)) : ¬ p.Fails place address := by
  rintro ⟨steps', h'⟩
  cases (h.unique h').2

/-- Whether a thread waits for a character or accepts. -/
def waits (p : Program) (t : Thread) : Bool :=
  match p.code[t.address]? with
  | some (.char ..) | some .accept => true
  | _ => false

/-- Where a thread goes on without passing a character. -/
def expand (p : Program) (place : Place) (t : Thread) : List Thread :=
  match p.code[t.address]? with
  | some (.fork nexts) => nexts.map (⟨·, t.slots⟩)
  | some (.check condition next) =>
    if condition.holds place.behind place.ahead.head? then [⟨next, t.slots⟩] else []
  | some (.opening next) => [⟨next, { t.slots with opening := some place.passed }⟩]
  | some (.closing next) => [⟨next, { t.slots with closing := some place.passed }⟩]
  | _ => []

/-- The first of some addresses that leads to a match, and those before it. -/
theorem Leads.of_first {addresses : List Nat} {found : Slots → Match}
    (h : p.Leads place (.first addresses) steps (some found)) :
    ∃ before address after, addresses = before ++ address :: after ∧
      (∀ a ∈ before, p.Fails place a) ∧ p.Leads place (.one address) steps (some found) := by
  induction addresses with
  | nil => cases h
  | cons a addresses ih =>
    cases h with
    | found h => exact ⟨[], a, addresses, rfl, by simp, h⟩
    | next h hr =>
      obtain ⟨before, address, after, rfl, hbefore, hl⟩ := ih hr
      exact ⟨a :: before, address, after, rfl, List.forall_mem_cons.2 ⟨⟨_, h⟩, hbefore⟩, hl⟩

theorem Leads.fails_of_first {addresses : List Nat}
    (h : p.Leads place (.first addresses) steps none) : ∀ a ∈ addresses, p.Fails place a := by
  induction addresses generalizing steps with
  | nil => simp
  | cons a addresses ih =>
    cases h with
    | next h hr => exact List.forall_mem_cons.2 ⟨⟨_, h⟩, ih hr⟩

/-- A thread that comes to nothing goes on to nothing. -/
theorem Fails.expand {t : Thread} (h : p.Fails place t.address) :
    ∀ s ∈ p.expand place t, p.Fails place s.address := by
  obtain ⟨steps, h⟩ := h
  unfold Program.expand
  cases h with
  | absent h => simp [h]
  | pass h => simp [h]
  | stuck h => simp [h]
  | fork h hr =>
    simp only [h, List.forall_mem_map]
    exact hr.fails_of_first
  | check h hc hr =>
    simp only [h, hc, if_true, List.forall_mem_singleton]
    exact ⟨_, hr⟩
  | refuse h hc => simp [h, hc]
  | opening h hr hs =>
    obtain rfl := Option.map_eq_none_iff.1 hs.symm
    simp only [h, List.forall_mem_singleton]
    exact ⟨_, hr⟩
  | closing h hr hs =>
    obtain rfl := Option.map_eq_none_iff.1 hs.symm
    simp only [h, List.forall_mem_singleton]
    exact ⟨_, hr⟩

/-- A thread that comes to a match waits for a character or accepts, or goes on to one that comes
to the same match and has fewer steps to go. -/
theorem Leads.expand {t : Thread} {found : Slots → Match}
    (h : p.Leads place (.one t.address) steps (some found)) :
    (p.waits t ∧ steps = 0) ∨
    (p.waits t = false ∧ ∃ n before s after found', steps = n + 1 ∧
      p.expand place t = before ++ s :: after ∧ (∀ e ∈ before, p.Fails place e.address) ∧
      p.Leads place (.one s.address) n (some found') ∧ found' s.slots = found t.slots) := by
  unfold Program.expand waits
  cases h with
  | accept h => simp [h]
  | pass h => simp [h]
  | fork h hr =>
    obtain ⟨before, address, after, rfl, hbefore, hl⟩ := hr.of_first
    refine .inr ⟨by simp [h], _, before.map (⟨·, t.slots⟩), ⟨address, t.slots⟩,
      after.map (⟨·, t.slots⟩), _, rfl, by simp [h], ?_, hl, rfl⟩
    simpa using hbefore
  | check h hc hr =>
    exact .inr ⟨by simp [h], _, [], ⟨_, t.slots⟩, [], _, rfl, by simp [h, hc], by simp, hr, rfl⟩
  | opening h hr hs =>
    obtain ⟨found', rfl, rfl⟩ := Option.map_eq_some_iff.1 hs.symm
    exact .inr ⟨by simp [h], _, [], _, [], found', rfl, by simp [h]; rfl, by simp, hr, rfl⟩
  | closing h hr hs =>
    obtain ⟨found', rfl, rfl⟩ := Option.map_eq_some_iff.1 hs.symm
    exact .inr ⟨by simp [h], _, [], _, [], found', rfl, by simp [h]; rfl, by simp, hr, rfl⟩

/-! ### Walks -/

/-- The ways on of the instructions from the address `base` on that were not walked yet. -/
def waysLeft (seen : Seen) : (base : Nat) → List Instruction → Nat
  | _, [] => 0
  | base, i :: is => (if seen.testBit base then 0 else i.ways) + waysLeft seen (base + 1) is

theorem testBit_mark (seen : Seen) (address other : Nat) :
    (seen ||| 1 <<< address).testBit other = (seen.testBit other || address == other) := by
  rw [Nat.testBit_or, Nat.one_shiftLeft, Nat.testBit_two_pow]
  rfl

theorem waysLeft_mark_of_lt (seen : Seen) {address base : Nat} (is : List Instruction)
    (h : address < base) : waysLeft (seen ||| 1 <<< address) base is = waysLeft seen base is := by
  induction is generalizing base with
  | nil => rfl
  | cons i is ih =>
    have hne : (address == base) = false := beq_false_of_ne h.ne
    rw [waysLeft, waysLeft, testBit_mark, hne, Bool.or_false, ih (h.trans base.lt_succ_self)]

theorem waysLeft_mark_le (seen : Seen) (address base : Nat) (is : List Instruction) :
    waysLeft (seen ||| 1 <<< address) base is ≤ waysLeft seen base is := by
  induction is generalizing base with
  | nil => exact Nat.le_refl _
  | cons i is ih =>
    rw [waysLeft, waysLeft, testBit_mark]
    refine Nat.add_le_add ?_ (ih _)
    cases seen.testBit base <;> split <;> simp_all

/-- Walking an instruction uses up its ways. -/
theorem waysLeft_mark {seen : Seen} {address base : Nat} {is : List Instruction} {i : Instruction}
    (h : seen.testBit address = false) (hb : base ≤ address) (hi : is[address - base]? = some i) :
    waysLeft (seen ||| 1 <<< address) base is + i.ways = waysLeft seen base is := by
  induction is generalizing base with
  | nil => simp at hi
  | cons j is ih =>
    rw [waysLeft, waysLeft, testBit_mark]
    rcases Nat.lt_or_eq_of_le hb with hlt | rfl
    · have hne : (address == base) = false := beq_false_of_ne hlt.ne'
      obtain ⟨k, hk⟩ : ∃ k, address - base = k + 1 := ⟨address - base - 1, by omega⟩
      rw [hk, List.getElem?_cons_succ] at hi
      have := ih (show base + 1 ≤ address from hlt) (by rwa [show address - (base + 1) = k by omega])
      rw [hne, Bool.or_false]
      omega
    · rw [Nat.sub_self, List.getElem?_cons_zero] at hi
      cases hi
      rw [waysLeft_mark_of_lt seen is base.lt_succ_self, h]
      simp [Nat.add_comm]

theorem waysLeft_zero (base n : Nat) (is : List Instruction) :
    is.foldl (fun n i => n + i.ways) n = n + waysLeft 0 base is := by
  induction is generalizing base n with
  | nil => rfl
  | cons i is ih =>
    rw [List.foldl_cons, ih (base + 1), waysLeft, Nat.zero_testBit, if_neg Bool.false_ne_true,
      Nat.add_assoc]

/-- The ways on from instructions that were not walked yet. -/
def left (p : Program) (seen : Seen) : Nat := waysLeft seen 0 p.code.toList

theorem left_zero_ofList (instructions : List Instruction) :
    (ofList instructions).left 0 = (ofList instructions).ways := by
  rw [ofList, left, waysLeft_zero 0, Nat.zero_add]

/-- A thread goes on by ways that are used up then. -/
theorem length_expand_le (p : Program) (place : Place) {t : Thread} {seen : Seen} (h : seen.testBit t.address = false) :
    (p.expand place t).length + p.left (seen ||| 1 <<< t.address) ≤ p.left seen := by
  cases hi : p.code[t.address]? with
  | none =>
    simp only [Program.expand, hi, List.length_nil, Nat.zero_add]
    exact waysLeft_mark_le ..
  | some i =>
    have hi' : p.code.toList[t.address - 0]? = some i := by simpa using hi
    have := waysLeft_mark h (Nat.zero_le _) hi'
    rw [left, left, ← this, Nat.add_comm]
    refine Nat.add_le_add_left ?_ _
    unfold Program.expand
    cases i with
    | check condition next =>
      simp only [hi]
      split <;> simp [Instruction.ways]
    | _ => simp [hi, Instruction.ways]

theorem walk_of_seen {fuel : Nat} {t : Thread} {todo waiting : List Thread} {seen : Seen}
    (h : seen.testBit t.address = true) (behind ahead : Option Char) (passed : Nat) :
    p.walk behind ahead passed (fuel + 1) (t :: todo) seen waiting =
      p.walk behind ahead passed fuel todo seen waiting := by
  rw [walk, if_pos h]

/-- Walking an instruction that was not walked yet. -/
theorem walk_of_not_seen {fuel : Nat} {t : Thread} {todo waiting : List Thread} {seen : Seen}
    (h : seen.testBit t.address = false) :
    p.walk place.behind place.ahead.head? place.passed (fuel + 1) (t :: todo) seen waiting =
      p.walk place.behind place.ahead.head? place.passed fuel (p.expand place t ++ todo)
        (seen ||| 1 <<< t.address) (if p.waits t then t :: waiting else waiting) := by
  rw [walk, if_neg (Bool.eq_false_iff.1 h)]
  unfold Program.expand waits
  cases hi : p.code[t.address]? with
  | none => simp
  | some i =>
    cases i with
    | check condition next =>
      simp only
      split <;> simp
    | _ => simp

theorem walk_nil (behind ahead : Option Char) (passed fuel : Nat) (seen : Seen)
    (waiting : List Thread) : p.walk behind ahead passed fuel [] seen waiting = waiting := by
  cases fuel <;> rfl

/-- A walk adds to the threads that wait. -/
theorem exists_walk_eq (p : Program) (place : Place) (fuel : Nat) (todo waiting : List Thread) (seen : Seen) :
    ∃ more, p.walk place.behind place.ahead.head? place.passed fuel todo seen waiting =
      more ++ waiting := by
  induction fuel generalizing todo seen waiting with
  | zero => exact ⟨[], by cases todo <;> rfl⟩
  | succ fuel ih =>
    cases todo with
    | nil => exact ⟨[], walk_nil ..⟩
    | cons t todo =>
      cases hseen : seen.testBit t.address with
      | true =>
        rw [walk_of_seen hseen]
        exact ih ..
      | false =>
        rw [walk_of_not_seen hseen]
        split
        · obtain ⟨more, hmore⟩ :=
            ih (p.expand place t ++ todo) (t :: waiting) (seen ||| 1 <<< t.address)
          exact ⟨more ++ [t], by simp [hmore]⟩
        · exact ih ..

/-- **A walk from threads that come to nothing comes to nothing.** -/
theorem fails_walk (fuel : Nat) {todo waiting : List Thread} (seen : Seen)
    (ht : ∀ t ∈ todo, p.Fails place t.address) (hw : ∀ t ∈ waiting, p.Fails place t.address) :
    ∀ t ∈ p.walk place.behind place.ahead.head? place.passed fuel todo seen waiting,
      p.Fails place t.address := by
  induction fuel generalizing todo seen waiting with
  | zero => cases todo <;> exact hw
  | succ fuel ih =>
    cases todo with
    | nil => rwa [walk_nil]
    | cons t todo =>
      obtain ⟨hfails, htodo⟩ := List.forall_mem_cons.1 ht
      cases hseen : seen.testBit t.address with
      | true =>
        rw [walk_of_seen hseen]
        exact ih _ htodo hw
      | false =>
        rw [walk_of_not_seen hseen]
        refine ih _ (List.forall_mem_append.2 ⟨hfails.expand, htodo⟩) ?_
        split
        · exact List.forall_mem_cons.2 ⟨hfails, hw⟩
        · exact hw

/-- **A walk keeps the first thread that succeeds.** An instruction that was walked before has come
to nothing, or it leads to the thread that succeeds and has more steps to go; so the instructions
on the way of that thread have not been walked. -/
theorem leads_walk (fuel : Nat) (after waiting : List Thread) (seen : Seen) {before : List Thread}
    {t : Thread} {found : Slots → Match} (hbefore : ∀ e ∈ before, p.Fails place e.address)
    (ht : p.Leads place (.one t.address) steps (some found))
    (hseen : ∀ address, seen.testBit address = true → p.Fails place address ∨
      ∃ n found', steps < n ∧ p.Leads place (.one address) n (some found'))
    (hw : ∀ e ∈ waiting, p.Fails place e.address)
    (hfuel : (before ++ t :: after).length + p.left seen ≤ fuel) :
    ∃ later w earlier found',
      p.walk place.behind place.ahead.head? place.passed fuel (before ++ t :: after) seen waiting =
        later ++ w :: earlier ∧
      (∀ e ∈ earlier, p.Fails place e.address) ∧ p.waits w ∧
      p.Leads place (.one w.address) 0 (some found') ∧ found' w.slots = found t.slots := by
  induction fuel generalizing before t after seen waiting steps found with
  | zero => simp at hfuel
  | succ fuel ih =>
    cases before with
    | cons e before =>
      obtain ⟨hfails, hbefore⟩ := List.forall_mem_cons.1 hbefore
      rw [List.cons_append] at hfuel ⊢
      rw [List.length_cons] at hfuel
      cases hs : seen.testBit e.address with
      | true =>
        rw [walk_of_seen hs]
        exact ih _ _ _ hbefore ht hseen hw (by omega)
      | false =>
        have hlength := length_expand_le p place hs
        rw [walk_of_not_seen hs, ← List.append_assoc]
        refine ih _ _ _ (List.forall_mem_append.2 ⟨hfails.expand, hbefore⟩) ht
          (fun address ha => ?_) ?_ ?_
        · rw [testBit_mark, Bool.or_eq_true, beq_iff_eq] at ha
          obtain ha | rfl := ha
          · exact hseen address ha
          · exact .inl hfails
        · split
          · exact List.forall_mem_cons.2 ⟨hfails, hw⟩
          · exact hw
        · rw [List.append_assoc, List.length_append]
          omega
    | nil =>
      rw [List.nil_append] at hfuel ⊢
      rw [List.length_cons] at hfuel
      have hs : seen.testBit t.address = false := by
        refine Bool.eq_false_iff.2 fun hs => ?_
        obtain hfails | ⟨n, found', hn, hl⟩ := hseen _ hs
        · exact ht.not_fails hfails
        · exact hn.ne (ht.unique hl).1
      have hlength := length_expand_le p place hs
      rw [walk_of_not_seen hs]
      obtain ⟨hwaits, rfl⟩ | ⟨hwaits, n, before, s, after', found', rfl, hexpand, hbefore, hl,
        hf⟩ := ht.expand
      · rw [if_pos hwaits]
        obtain ⟨more, hmore⟩ := exists_walk_eq p place fuel
          (p.expand place t ++ after) (t :: waiting) (seen ||| 1 <<< t.address)
        exact ⟨more, t, waiting, found, hmore, hw, hwaits, ht, rfl⟩
      · rw [if_neg (Bool.eq_false_iff.1 hwaits), hexpand, List.append_assoc, List.cons_append, ← hf]
        refine ih _ _ _ hbefore hl (fun address ha => ?_) hw ?_
        · rw [testBit_mark, Bool.or_eq_true, beq_iff_eq] at ha
          obtain ha | rfl := ha
          · obtain hfails | ⟨m, found'', hm, hl'⟩ := hseen address ha
            · exact .inl hfails
            · exact .inr ⟨m, found'', by omega, hl'⟩
          · exact .inr ⟨n + 1, found, by omega, ht⟩
        · rw [hexpand] at hlength
          simp only [List.length_append, List.length_cons] at hlength ⊢
          omega

/-- What a walk from some threads comes to, if the first of them that succeeds is known. -/
theorem leads_reach (hp : p.left 0 ≤ p.ways) (after : List Thread) {before : List Thread}
    {t : Thread} {found : Slots → Match} (hbefore : ∀ e ∈ before, p.Fails place e.address)
    (ht : p.Leads place (.one t.address) steps (some found)) :
    ∃ earlier w later found',
      p.reach place.behind place.ahead.head? place.passed (before ++ t :: after) =
        earlier ++ w :: later ∧
      (∀ e ∈ earlier, p.Fails place e.address) ∧ p.waits w ∧
      p.Leads place (.one w.address) 0 (some found') ∧ found' w.slots = found t.slots := by
  obtain ⟨later, w, earlier, found', hwalk, hearlier, hw⟩ :=
    leads_walk ((before ++ t :: after).length + p.ways + 1) after [] 0 hbefore ht (by simp)
      (by simp) (by omega)
  refine ⟨earlier.reverse, w, later.reverse, found', ?_, by simpa using hearlier, hw⟩
  rw [reach, hwalk, List.reverse_append, List.reverse_cons, List.append_assoc,
    List.singleton_append]

theorem fails_reach {threads : List Thread} (ht : ∀ t ∈ threads, p.Fails place t.address) :
    ∀ t ∈ p.reach place.behind place.ahead.head? place.passed threads,
      p.Fails place t.address := by
  intro t hmem
  exact fails_walk _ _ ht (by simp) t (List.mem_reverse.1 hmem)

/-! ### Passing characters -/

theorem accepts_iff {t : Thread} : p.accepts t ↔ p.code[t.address]? = some .accept := by
  unfold accepts
  split <;> simp_all

theorem Fails.accepts {t : Thread} (h : p.Fails place t.address) : p.accepts t = false := by
  refine Bool.eq_false_iff.2 fun ha => ?_
  exact (Leads.accept (accepts_iff.1 ha)).not_fails h

/-- A thread that comes to nothing passes a character to nothing. -/
theorem Fails.step? {behind : Option Char} {c : Char} {rest : List Char} {passed : Nat}
    {t s : Thread} (h : p.Fails ⟨behind, c :: rest, passed⟩ t.address)
    (hs : p.step? c t = some s) : p.Fails ⟨some c, rest, passed + 1⟩ s.address := by
  unfold Program.step? at hs
  split at hs
  · next set next hcode =>
    split at hs
    · next hc =>
      cases hs
      obtain ⟨steps, h⟩ := h
      cases h with
      | pass h hc' hr =>
        cases Option.some.inj (hcode.symm.trans h)
        exact ⟨_, hr⟩
      | stuck h hc' =>
        cases Option.some.inj (hcode.symm.trans h)
        simp_all
      | _ => simp_all
    · cases hs
  · cases hs

/-- A thread that waits and comes to a match accepts, or it passes the next character. -/
theorem Leads.step? {t : Thread} {found : Slots → Match} (hw : p.waits t)
    (h : p.Leads place (.one t.address) steps (some found)) :
    (p.accepts t ∧ found = fun slots => ⟨place.passed, slots⟩) ∨
    (p.accepts t = false ∧ ∃ c rest s n, place.ahead = c :: rest ∧ p.step? c t = some s ∧
      s.slots = t.slots ∧ p.Leads ⟨some c, rest, place.passed + 1⟩ (.one s.address) n
        (some found)) := by
  unfold Program.step? waits at *
  cases h with
  | accept h => exact .inl ⟨accepts_iff.2 h, rfl⟩
  | @pass _ _ _ _ _ _ next _ _ h hc hr =>
    refine .inr ⟨Bool.eq_false_iff.2 fun ha => ?_, _, _, ⟨next, t.slots⟩, _, rfl,
      by simp only [h, hc, if_true], rfl, hr⟩
    simp [accepts_iff.1 ha] at h
  | _ => simp_all

/-! ### Runs -/

section Runs

variable {behind : Option Char} {ahead : List Char} {passed : Nat} {best : Option Match}

theorem find?_accepts_of_fails {threads : List Thread}
    (ht : ∀ t ∈ threads, p.Fails place t.address) : threads.find? p.accepts = none := by
  simpa using fun t hmem => (ht t hmem).accepts

/-- A run of threads that come to nothing leaves the match to beat. -/
theorem run_of_fails {threads : List Thread}
    (ht : ∀ t ∈ threads, p.Fails ⟨behind, ahead, passed⟩ t.address) :
    p.run ahead behind passed threads best = best := by
  induction ahead generalizing behind passed threads with
  | nil =>
    have hreach := fails_reach ht
    simp only [List.head?_nil] at hreach
    rw [run, find?_accepts_of_fails hreach]
  | cons c rest ih =>
    have hreach := fails_reach ht
    simp only [List.head?_cons] at hreach
    rw [run, find?_accepts_of_fails hreach]
    split
    · rfl
    · refine ih fun s hs => ?_
      obtain ⟨t, hmem, hstep⟩ := List.mem_filterMap.1 hs
      exact (hreach t ((List.takeWhile_sublist _).subset hmem)).step? hstep

/-- **A run finds what the first thread that succeeds comes to.** -/
theorem run_of_leads (hp : p.left 0 ≤ p.ways) {before after : List Thread} {t : Thread}
    {found : Slots → Match}
    (hbefore : ∀ e ∈ before, p.Fails ⟨behind, ahead, passed⟩ e.address)
    (ht : p.Leads ⟨behind, ahead, passed⟩ (.one t.address) steps (some found)) :
    p.run ahead behind passed (before ++ t :: after) best = some (found t.slots) := by
  induction ahead generalizing behind passed before after t steps best found with
  | nil =>
    obtain ⟨earlier, w, later, found', hreach, hearlier, hwaits, hl, hf⟩ :=
      leads_reach hp after hbefore ht
    obtain ⟨haccepts, rfl⟩ | ⟨-, c, rest, s, n, ha, -⟩ := hl.step? hwaits
    · rw [run, ← hf]
      simp only [List.head?_nil] at hreach
      simp [hreach, find?_accepts_of_fails hearlier, haccepts]
    · cases ha
  | cons c rest ih =>
    obtain ⟨earlier, w, later, found', hreach, hearlier, hwaits, hl, hf⟩ :=
      leads_reach hp after hbefore ht
    have hmoved : ∀ s ∈ earlier.filterMap (p.step? c),
        p.Fails ⟨some c, rest, passed + 1⟩ s.address := by
      intro s hs
      obtain ⟨e, hmem, hstep⟩ := List.mem_filterMap.1 hs
      exact (hearlier e hmem).step? hstep
    have htake : ∀ e ∈ earlier, (!p.accepts e) = true := fun e he => by
      rw [(hearlier e he).accepts]
      rfl
    simp only [List.head?_cons] at hreach
    rw [run, hreach, ← hf]
    obtain ⟨haccepts, rfl⟩ | ⟨haccepts, c', rest', s, n, ha, hs, hslots, hl⟩ := hl.step? hwaits
    · -- the thread accepts here, and only threads before it go on
      simp only [List.find?_append, find?_accepts_of_fails hearlier, List.find?_cons, haccepts,
        Option.none_or]
      rw [List.takeWhile_append_of_pos htake, List.takeWhile_cons, haccepts]
      simp only [Bool.not_true, Bool.false_eq_true, if_false, List.append_nil]
      split
      · rfl
      · exact run_of_fails hmoved
    · -- the thread goes on
      cases ha
      rw [List.takeWhile_append_of_pos htake, List.takeWhile_cons, haccepts, Bool.not_false,
        if_pos rfl, List.filterMap_append, List.filterMap_cons_some hs]
      split
      · next h => simp at h
      · rw [← hslots]
        exact ih hmoved hl

/-- **A search finds what the start of the program leads to.** -/
theorem match?_of_leads (hp : p.left 0 ≤ p.ways) {r : Ending}
    (h : p.Leads ⟨behind, ahead, 0⟩ (.one 0) steps r) :
    p.match? behind ahead = r.map fun found => found ⟨none, none⟩ := by
  cases r with
  | none => exact run_of_fails (by simpa using ⟨_, h⟩)
  | some found =>
    have hbefore : ∀ e ∈ ([] : List Thread), p.Fails ⟨behind, ahead, 0⟩ e.address := by simp
    have hrun : p.run ahead behind 0 ([] ++ ⟨0, none, none⟩ :: []) none =
        some (found ⟨none, none⟩) := run_of_leads hp hbefore h
    exact hrun

end Runs

end Program
end DataGrammar.Pattern
