import DataGrammar.Proofs.Pattern.Layout
import DataGrammar.Proofs.Pattern.Search

/-!
# What an expression matches

An expression has a meaning of its own, without any program: given what follows it, it has an
outlook on every place, which is the preferred match from there or nothing. Branches are tried in
order, and a repetition tries one round more before it goes on, or after.

* `Expression.outlook e after`: what comes of `e` at a place, if `after` tells what comes of the
  places behind it.
* `Expression.proper`: what is repeated without end does not match the empty text.
* `Expression.gives_emit`: the instructions of an expression lead to its outlook.
* `Expression.find?`: the match of an expression, and `Program.match?_ofExpression`: its program
  finds that match.
-/

namespace DataGrammar.Pattern

/-- What comes of places. -/
abbrev Outlook := Place → Ending

namespace Outlook

/-- The match ends. -/
def accept : Outlook := fun place => some fun slots => ⟨place.passed, slots⟩

/-- The first of two outlooks that comes to a match; the second one is preferred if not
`greedy`. -/
def choose (greedy : Bool) (first second : Outlook) : Outlook := fun place =>
  if greedy then (first place).or (second place) else (second place).or (first place)

/-- Up to `n` rounds of an item; what comes after the last one of them is `last`. -/
def rounds (greedy : Bool) (item : Outlook → Outlook) (after last : Outlook) : (n : Nat) → Outlook
  | 0 => last
  | n + 1 => choose greedy (item (rounds greedy item after last n)) after

/-- Exactly `n` rounds of an item. -/
def copies (item : Outlook → Outlook) (after : Outlook) : (n : Nat) → Outlook
  | 0 => after
  | n + 1 => item (copies item after n)

/-- Nothing comes of places with `k` characters ahead or more. -/
def below (k : Nat) (outlook : Outlook) : Outlook := fun place =>
  if place.ahead.length < k then outlook place else none

/-- Rounds without end. Each one has to pass a character. -/
def endless (greedy : Bool) (item : Outlook → Outlook) (after : Outlook) (place : Place) : Ending :=
  choose greedy
    (item fun next =>
      if next.ahead.length < place.ahead.length then endless greedy item after next else none)
    after place
termination_by place.ahead.length

theorem endless_eq (greedy : Bool) (item : Outlook → Outlook) (after : Outlook) (place : Place) :
    endless greedy item after place =
      choose greedy (item (below place.ahead.length (endless greedy item after))) after place := by
  rw [endless]
  rfl

end Outlook

open Outlook

namespace Expression

mutual

/-- What comes of an expression at a place, given what comes after it. -/
def outlook : Expression → Outlook → Outlook
  | .empty, after => after
  | .chars set, after => fun place =>
    match place.ahead with
    | [] => none
    | c :: rest => if set.contains c then after ⟨some c, rest, place.passed + 1⟩ else none
  | .look condition, after => fun place =>
    if condition.holds place.behind place.ahead.head? then after place else none
  | .repetition least none greedy item, after =>
    copies item.outlook (endless greedy item.outlook after) least
  | .repetition least (some most) greedy item, after =>
    copies item.outlook (rounds greedy item.outlook after after (most - least)) least
  | .capture index item, after =>
    if index = 1 then fun place =>
      Ending.opening place.passed
        (item.outlook (fun stop => Ending.closing stop.passed (after stop)) place)
    else item.outlook after
  | .concat items, after => outlookRow items after
  | .alternation branches, after => outlookBranches branches after

/-- What comes of expressions in a row. -/
def outlookRow : List Expression → Outlook → Outlook
  | [], after => after
  | e :: es, after => e.outlook (outlookRow es after)

/-- What comes of the first of some branches that comes to a match. -/
def outlookBranches : List Expression → Outlook → Outlook
  | [], _ => fun _ => none
  | e :: es, after => fun place => (e.outlook after place).or (outlookBranches es after place)

end

mutual

/-- What is repeated without end does not match the empty text, and no repetition ends before it
may. -/
def proper : Expression → Bool
  | .empty | .chars _ | .look _ => true
  | .repetition _ none _ item => !item.canBeEmpty && item.proper
  | .repetition least (some most) _ item => decide (least ≤ most) && item.proper
  | .capture _ item => item.proper
  | .concat items => allProper items
  | .alternation branches => allProper branches

/-- Every expression is proper. -/
def allProper : List Expression → Bool
  | [] => true
  | e :: es => e.proper && allProper es

end

/-- How many characters are passed at least, as far as that is told: none or one. -/
def width (e : Expression) : Nat := (!e.canBeEmpty).toNat

end Expression

/-! ### Addresses that lead to an outlook -/

namespace Program

variable {p : Program}

/-- With less than `k` characters ahead, the program leads from the address to what the outlook
tells. -/
def Gives (p : Program) (k address : Nat) (outlook : Outlook) : Prop :=
  ∀ place : Place, place.ahead.length < k →
    ∃ steps, p.Leads place (.one address) steps (outlook place)

variable {k k' address : Nat} {outlook first second : Outlook}

theorem Gives.mono (h : p.Gives k address outlook) (hk : k' ≤ k) : p.Gives k' address outlook :=
  fun place hp => h place (Nat.lt_of_lt_of_le hp hk)

theorem gives_zero : p.Gives 0 address outlook := fun _ h => absurd h (Nat.not_lt_zero _)

theorem leads_first_cons {place : Place} {addresses : List Nat} {r s : Ending}
    (hr : ∃ steps, p.Leads place (.one address) steps r)
    (hs : ∃ steps, p.Leads place (.first addresses) steps s) :
    ∃ steps, p.Leads place (.first (address :: addresses)) steps (r.or s) := by
  obtain ⟨n, hr⟩ := hr
  obtain ⟨m, hs⟩ := hs
  cases r with
  | none => exact ⟨m, .next hr hs⟩
  | some found => exact ⟨n, .found hr⟩

theorem leads_first_singleton {place : Place} {r : Ending}
    (hr : ∃ steps, p.Leads place (.one address) steps r) :
    ∃ steps, p.Leads place (.first [address]) steps r := by
  obtain ⟨n, h⟩ := leads_first_cons hr ⟨0, .nil⟩
  exact ⟨n, by rwa [Option.or_none] at h⟩

theorem gives_fork {nexts : List Nat} (h : p.code[address]? = some (.fork nexts))
    (hn : ∀ place : Place, place.ahead.length < k →
      ∃ steps, p.Leads place (.first nexts) steps (outlook place)) :
    p.Gives k address outlook := by
  intro place hp
  obtain ⟨n, hl⟩ := hn place hp
  exact ⟨n + 1, .fork h hl⟩

theorem gives_jump {next : Nat} (h : p.code[address]? = some (.fork [next]))
    (hn : p.Gives k next outlook) : p.Gives k address outlook :=
  gives_fork h fun place hp => leads_first_singleton (hn place hp)

theorem gives_way {greedy : Bool} {a b : Nat}
    (h : p.code[address]? = some (Expression.way greedy a b)) (ha : p.Gives k a first)
    (hb : p.Gives k b second) : p.Gives k address (choose greedy first second) := by
  refine gives_fork h fun place hp => ?_
  cases greedy with
  | true => exact leads_first_cons (ha place hp) (leads_first_singleton (hb place hp))
  | false => exact leads_first_cons (hb place hp) (leads_first_singleton (ha place hp))

section Rounds

variable {item : Outlook → Outlook} {after last : Outlook} {width : Nat} {greedy : Bool}

/-- Copies of an item one after the other; `start` tells where each of them starts. -/
theorem gives_copies (start : Nat → Nat) (width : Nat) {n : Nat}
    (hitem : ∀ i < n, ∀ k o, p.Gives (k - width) (start (i + 1)) o → p.Gives k (start i) (item o))
    (hlast : p.Gives (k - if n = 0 then 0 else width) (start n) last) :
    p.Gives k (start 0) (copies item last n) := by
  induction n generalizing start k with
  | zero => exact hlast
  | succ n ih =>
    refine hitem 0 n.succ_pos k _ (ih (fun i => start (i + 1)) (fun i hi => ?_) ?_)
    · exact hitem (i + 1) (Nat.succ_lt_succ hi)
    · refine hlast.mono ?_
      simp only [Nat.add_one_ne_zero, if_false]
      split <;> omega

/-- Optional copies of an item one after the other. -/
theorem gives_rounds (start : Nat → Nat) {n : Nat}
    (hitem : ∀ i < n, ∀ k' ≤ k, ∀ o, p.Gives k' (start (i + 1)) o →
      p.Gives k' (start i) (choose greedy (item o) after))
    (hlast : p.Gives k (start n) last) :
    p.Gives k (start 0) (rounds greedy item after last n) := by
  induction n generalizing start with
  | zero => exact hlast
  | succ n ih =>
    refine hitem 0 n.succ_pos k (Nat.le_refl k) _
      (ih (fun i => start (i + 1)) (fun i hi => ?_) hlast)
    exact hitem (i + 1) (Nat.succ_lt_succ hi)

/-- A loop: from the address a round leads back to it, and passes a character. -/
theorem gives_endless (hitem : ∀ k' ≤ k, ∀ o, p.Gives (k' - 1) address o →
      p.Gives k' address (choose greedy (item o) after)) :
    p.Gives k address (endless greedy item after) := by
  induction k with
  | zero => exact gives_zero
  | succ k ih =>
    have hk := ih fun k' hk => hitem k' (Nat.le_succ_of_le hk)
    intro place hp
    rw [endless_eq]
    refine hitem (place.ahead.length + 1) hp _ (fun next hnext => ?_) place (Nat.lt_succ_self _)
    rw [Nat.add_sub_cancel] at hnext
    rw [below, if_pos hnext]
    exact hk next (Nat.lt_of_lt_of_le hnext (Nat.le_of_lt_succ hp))

end Rounds

end Program

/-! ### Instructions -/

namespace Expression

open Program

variable {p : Program} {after : Outlook}

/-- A list read by address is laid out as it is. -/
theorem layout_getElem? {α : Type} (before xs : List α) :
    Layout (fun address x => (before ++ xs)[address]? = some x) before.length xs := by
  induction xs generalizing before with
  | nil => trivial
  | cons x xs ih =>
    refine ⟨by simp, ?_⟩
    simpa using ih (before ++ [x])

/-- The instructions are found in the program from the address `base` on. -/
def Laid (p : Program) : (base : Nat) → List Instruction → Prop :=
  Layout fun address instruction => p.code[address]? = some instruction

theorem width_of_least (least : Nat) (most : Option Nat) (greedy : Bool) (item : Expression) :
    (repetition least most greedy item).width = if least = 0 then 0 else item.width := by
  cases least <;> simp [width, canBeEmpty]

section Repetition

variable {item : Expression} {k base next : Nat} {greedy : Bool}
  (hitem : ∀ {k base next : Nat} {o : Outlook}, Laid p base (item.emit base next) →
    p.Gives (k - item.width) next o → p.Gives k base (item.outlook o))

include hitem

theorem gives_emit_endless {least : Nat} (hempty : item.canBeEmpty = false)
    (hl : Laid p base ((repetition least none greedy item).emit base next))
    (hn : p.Gives (k - (repetition least none greedy item).width) next after) :
    p.Gives k base ((repetition least none greedy item).outlook after) := by
  have hwidth : item.width = 1 := by simp [width, hempty]
  rw [width_of_least, hwidth] at hn
  simp only [emit] at hl
  rw [outlook]
  split at hl
  · next h0 =>
    -- a loop that may be left at once
    subst h0
    rw [hempty, if_neg Bool.false_ne_true] at hl
    obtain ⟨hway, hbody⟩ := hl
    refine gives_endless fun k' hk o ho => gives_way hway ?_ (hn.mono hk)
    exact hitem hbody (by rwa [hwidth])
  · next h0 =>
    -- copies of the item, and a loop back to the last one of them
    obtain ⟨hcopies, hway, -⟩ := layout_append.1 hl
    rw [length_flatMap_range _ item.size _ fun i => length_emit item _ _] at hway
    have hcopies := (layout_flatMap_range fun i => length_emit item _ _).1 hcopies
    rw [if_neg h0] at hn
    have hloop : p.Gives (k - 1) (base + least * item.size)
        (endless greedy item.outlook after) := by
      refine gives_endless fun k' hk o ho => gives_way hway ?_ (hn.mono hk)
      refine hitem (hcopies (least - 1) (by omega)) ?_
      rwa [hwidth, show least - 1 + 1 = least by omega]
    have hstart : p.Gives k (base + 0 * item.size)
        (copies item.outlook (endless greedy item.outlook after) least) :=
      gives_copies (fun i => base + i * item.size) item.width
        (fun i hi k o ho => hitem (hcopies i hi) ho) (by rwa [if_neg h0, hwidth])
    rwa [Nat.zero_mul, Nat.add_zero] at hstart

theorem gives_emit_bounded {least most : Nat} (hle : least ≤ most)
    (hl : Laid p base ((repetition least (some most) greedy item).emit base next))
    (hn : p.Gives (k - (repetition least (some most) greedy item).width) next after) :
    p.Gives k base ((repetition least (some most) greedy item).outlook after) := by
  rw [width_of_least] at hn
  simp only [emit] at hl
  rw [outlook]
  obtain ⟨hl, hnothing⟩ := layout_append.1 hl
  obtain ⟨hcopies, hoptions⟩ := layout_append.1 hl
  rw [List.length_append, length_flatMap_range _ item.size _ fun i => length_emit item _ _,
    length_flatMap_range _ (item.size + 1) _ fun i => by rw [List.length_cons, length_emit],
    ← Nat.add_assoc] at hnothing
  rw [length_flatMap_range _ item.size _ fun i => length_emit item _ _] at hoptions
  have hcopies := (layout_flatMap_range fun i => length_emit item _ _).1 hcopies
  have hoptions := (layout_flatMap_range fun i => by rw [List.length_cons, length_emit]).1 hoptions
  -- the optional copies, the last one of which goes on after the repetition
  have htail : ∀ k', p.Gives k' next after →
      p.Gives k' (if least = most then (if most = 0 then base else next)
        else base + least * item.size) (rounds greedy item.outlook after after (most - least)) := by
    intro k' hk'
    split
    · next heq =>
      rw [heq, Nat.sub_self]
      split
      · next h0 =>
        rw [if_pos h0, heq, h0, Nat.zero_mul, Nat.sub_zero, Nat.zero_mul] at hnothing
        exact gives_jump hnothing.1 hk'
      · exact hk'
    · next hne =>
      have hfirst : base + least * item.size = if 0 = most - least then next
          else base + least * item.size + 0 * (item.size + 1) := by
        rw [if_neg (by omega), Nat.zero_mul, Nat.add_zero]
      rw [hfirst]
      refine gives_rounds (fun i => if i = most - least then next
        else base + least * item.size + i * (item.size + 1)) (fun i hi k'' hk'' o ho => ?_)
        (by simpa using hk')
      obtain ⟨hway, hbody⟩ := hoptions i hi
      rw [if_neg hi.ne]
      refine gives_way hway (hitem hbody ?_) (hk'.mono hk'')
      rw [Nat.succ_mul, ← Nat.add_assoc, ← Nat.add_assoc, Nat.add_right_comm _ item.size] at ho
      exact ho.mono (Nat.sub_le _ _)
  have hfirst : base = if 0 = most then (if most = 0 then base else next)
      else base + 0 * item.size := by
    split
    · next h => rw [if_pos h.symm]
    · rw [Nat.zero_mul, Nat.add_zero]
  rw [hfirst]
  refine gives_copies (fun i => if i = most then (if most = 0 then base else next)
    else base + i * item.size) item.width (fun i hi k o ho => ?_) (htail _ hn)
  rw [if_neg (by omega)]
  refine hitem (hcopies i hi) ?_
  split
  · next h => rwa [if_pos h, if_neg (by omega : ¬ most = 0)] at ho
  · next h => rwa [if_neg h] at ho

end Repetition

mutual

/-- **The instructions of an expression lead to its outlook.** -/
theorem gives_emit (e : Expression) {k base next : Nat} {after : Outlook} (hp : e.proper)
    (hl : Laid p base (e.emit base next)) (hn : p.Gives (k - e.width) next after) :
    p.Gives k base (e.outlook after) := by
  cases e with
  | empty => exact gives_jump hl.1 hn
  | chars set =>
    rintro ⟨behind, ahead, passed⟩ hk
    cases ahead with
    | nil => exact ⟨0, .stuck hl.1 (by simp)⟩
    | cons c rest =>
      simp only [outlook]
      split
      · next hc =>
        rw [List.length_cons] at hk
        obtain ⟨n, h⟩ := hn ⟨some c, rest, passed + 1⟩ (by
          simp only [width, canBeEmpty, Bool.not_false, Bool.toNat_true]
          omega)
        exact ⟨0, .pass hl.1 hc h⟩
      · next hc => exact ⟨0, .stuck hl.1 (by simpa using hc)⟩
  | look condition =>
    intro place hk
    simp only [outlook]
    split
    · next hc =>
      obtain ⟨n, h⟩ := hn place hk
      exact ⟨n + 1, .check hl.1 hc h⟩
    · next hc => exact ⟨0, .refuse hl.1 (by simpa using hc)⟩
  | repetition least most greedy item =>
    cases most with
    | none =>
      simp only [proper, Bool.and_eq_true, Bool.not_eq_true'] at hp
      exact gives_emit_endless (fun h hn => gives_emit item hp.2 h hn) hp.1 hl hn
    | some most =>
      simp only [proper, Bool.and_eq_true, decide_eq_true_eq] at hp
      exact gives_emit_bounded (fun h hn => gives_emit item hp.2 h hn) hp.1 hl hn
  | capture index item =>
    simp only [emit] at hl
    simp only [outlook]
    split at hl
    · next hi =>
      obtain ⟨hopen, hl⟩ := hl
      obtain ⟨hitem, hclose, -⟩ := layout_append.1 hl
      rw [length_emit] at hclose
      rw [if_pos hi]
      have hclosing : p.Gives (k - item.width) (base + 1 + item.size)
          fun stop => Ending.closing stop.passed (after stop) := by
        intro place hk
        obtain ⟨n, h⟩ := hn place hk
        exact ⟨n + 1, .closing hclose h rfl⟩
      have hbody := gives_emit item hp hitem hclosing
      intro place hk
      obtain ⟨n, h⟩ := hbody place hk
      exact ⟨n + 1, .opening hopen h rfl⟩
    · next hi =>
      rw [if_neg hi]
      exact gives_emit item hp hl hn
  | concat items => exact gives_emitRow items hp hl hn
  | alternation branches =>
    obtain ⟨hfork, hl⟩ := hl
    exact gives_fork hfork fun place hk => leads_starts branches hp hl hn place hk

theorem gives_emitRow (es : List Expression) {k base next : Nat} {after : Outlook}
    (hp : allProper es) (hl : Laid p base (emitRow base next es))
    (hn : p.Gives (k - (!allCanBeEmpty es).toNat) next after) :
    p.Gives k base (outlookRow es after) := by
  cases es with
  | nil => exact gives_jump hl.1 hn
  | cons e es =>
    simp only [allProper, Bool.and_eq_true] at hp
    obtain ⟨he, hes⟩ := layout_append.1 hl
    rw [length_emit] at hes
    refine gives_emit e hp.1 he (gives_emitRow es hp.2 hes (hn.mono ?_))
    simp only [allCanBeEmpty, width]
    cases e.canBeEmpty <;> cases allCanBeEmpty es <;> simp

theorem leads_starts (es : List Expression) {k base next : Nat} {after : Outlook}
    (hp : allProper es) (hl : Laid p base (emitBranches base next es))
    (hn : p.Gives (k - (!anyCanBeEmpty es).toNat) next after) (place : Place)
    (hk : place.ahead.length < k) :
    ∃ steps, p.Leads place (.first (starts base es)) steps (outlookBranches es after place) := by
  cases es with
  | nil => exact ⟨0, .nil⟩
  | cons e es =>
    simp only [allProper, Bool.and_eq_true] at hp
    obtain ⟨he, hes⟩ := layout_append.1 hl
    rw [length_emit] at hes
    refine leads_first_cons (gives_emit e hp.1 he (hn.mono ?_) place hk)
      (leads_starts es hp.2 hes (hn.mono ?_) place hk)
    all_goals
      simp only [anyCanBeEmpty, width]
      cases e.canBeEmpty <;> cases anyCanBeEmpty es <;> simp

end

/-- The match of an expression at a place, if there is one. -/
def find? (e : Expression) (behind : Option Char) (ahead : List Char) : Option Match :=
  (e.outlook accept ⟨behind, ahead, 0⟩).map fun found => found ⟨none, none⟩

end Expression

/-- **The program of an expression finds the match of the expression.** -/
theorem Program.match?_ofExpression {e : Expression} (hp : e.proper) (behind : Option Char)
    (ahead : List Char) : (Program.ofExpression e).match? behind ahead = e.find? behind ahead := by
  have hlaid : Layout (fun address instruction =>
      (Program.ofExpression e).code[address]? = some instruction) 0
      (e.emit 0 e.size ++ [Instruction.accept]) := by
    simpa [Program.ofExpression, Program.ofList] using
      Expression.layout_getElem? [] (e.emit 0 e.size ++ [Instruction.accept])
  obtain ⟨he, haccept, -⟩ := layout_append.1 hlaid
  rw [Expression.length_emit, Nat.zero_add] at haccept
  have hgives : (Program.ofExpression e).Gives (ahead.length + 1) 0 (e.outlook accept) :=
    e.gives_emit hp he fun place _ => ⟨0, .accept haccept⟩
  obtain ⟨n, h⟩ := hgives ⟨behind, ahead, 0⟩ (Nat.lt_succ_self _)
  exact match?_of_leads (left_zero_ofList _).le h

end DataGrammar.Pattern
