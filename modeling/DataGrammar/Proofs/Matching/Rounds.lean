import DataGrammar.Proofs.Depth.Limit

/-!
# Rounds of a repetition

A round of a repetition is an item that matches and the separator that matches after it. An endless
repetition does one round after the other until the item fails, the separator fails, or a round
passes nothing. That last end cuts short what would go on for ever: where a round passes nothing,
so do all rounds after it, and they all give the same.

* `Step.Rounds` are rounds one after the other; `Step.Ends` says how they come to an end.
* `Step.ends_of_repetition`: an endless repetition that matches has come to an end, never to the
  end of its bound on the rounds.
* `Step.repetition_of_ends`: what a bounded repetition does where an endless one has come to an end.
* `Parser.repetition_bounded`: stopping where a round passes nothing loses nothing.
-/

namespace DataGrammar

namespace Cursor

theorem Reaches.length_ahead_le {c d : Cursor} (h : c.Reaches d) :
    d.ahead.length ≤ c.ahead.length := by
  obtain ⟨n, rfl⟩ := h
  rw [ahead_advance_eq_drop, List.length_drop]
  exact Nat.sub_le _ _

/-- Who moves on has less ahead. -/
theorem Reaches.length_ahead_lt {c d : Cursor} (h : c.Reaches d) (hne : d.offset ≠ c.offset) :
    d.ahead.length < c.ahead.length := by
  obtain ⟨n, rfl⟩ := h
  rw [offset_advance] at hne
  have htake : c.ahead.take n ≠ [] := fun hnil => hne (by rw [hnil]; rfl)
  have hn : n ≠ 0 := fun hzero => htake (by rw [hzero, List.take_zero])
  have hahead : c.ahead ≠ [] := fun hnil => htake (by rw [hnil, List.take_nil])
  have := List.length_pos_of_ne_nil hahead
  rw [ahead_advance_eq_drop, List.length_drop]
  omega

end Cursor

namespace Step

variable {item : Step Option} {separator : Option (Step Option)} {least most tries : Nat}
  {start stop c d e : Cursor} {items done : List Value} {v : Value} {again : Option Value}

/-! ### Rounds -/

/-- From `c` on to `d`, the item matches with value `v`, and the separator after it. -/
def Round (item : Step Option) (separator : Option (Step Option)) (c : Cursor) (v : Value)
    (d : Cursor) : Prop :=
  ∃ e w, item c = some ⟨true, e, v⟩ ∧ optional separator e = some ⟨true, d, w⟩

/-- Rounds one after the other, with the values of their items. -/
inductive Rounds (item : Step Option) (separator : Option (Step Option)) :
    Cursor → List Value → Cursor → Prop
  | nil (c : Cursor) : Rounds item separator c [] c
  | cons {c d e : Cursor} {v : Value} {items : List Value} (h : Round item separator c v d)
      (hs : Rounds item separator d items e) : Rounds item separator c (v :: items) e

theorem Rounds.append {more : List Value} (h : Rounds item separator c items d)
    (h' : Rounds item separator d more e) : Rounds item separator c (items ++ more) e := by
  induction h with
  | nil c => exact h'
  | cons hround _ ih => exact .cons hround (ih h')

theorem Rounds.snoc (h : Rounds item separator c items d) (hround : Round item separator d v e) :
    Rounds item separator c (items ++ [v]) e :=
  h.append (.cons hround (.nil e))

/-- A round that passes nothing is followed by rounds like it. -/
theorem Round.replicate (h : Round item separator c v c) (n : Nat) :
    Rounds item separator c (List.replicate n v) c := by
  induction n with
  | zero => exact .nil c
  | succ n ih => exact .cons h ih

/-- How a repetition without an upper bound comes to an end: with `items`, up to `stop`, and with
`again` if it would go on to list that value for ever. -/
inductive Ends (item : Step Option) (separator : Option (Step Option)) (start : Cursor) :
    List Value → Cursor → Option Value → Prop
  /-- The item fails after the last round. -/
  | ofItem {items : List Value} {stop cursor : Cursor} {w : Value}
      (h : Rounds item separator start items stop) (hitem : item stop = some ⟨false, cursor, w⟩) :
      Ends item separator start items stop none
  /-- The separator fails after the last item. -/
  | ofSeparator {items : List Value} {c stop cursor : Cursor} {v w : Value}
      (h : Rounds item separator start items c) (hitem : item c = some ⟨true, stop, v⟩)
      (hseparator : optional separator stop = some ⟨false, cursor, w⟩) :
      Ends item separator start (items ++ [v]) stop none
  /-- The last round passes nothing. -/
  | ofStandstill {items : List Value} {stop : Cursor} {v : Value}
      (h : Rounds item separator start items stop) (hround : Round item separator stop v stop) :
      Ends item separator start (items ++ [v]) stop (some v)

/-! ### Bounded repetitions -/

theorem finish_of_le (h : least ≤ done.length) (commit stop : Cursor) (rest : Value) :
    finish least done commit stop rest = ⟨true, commit, .list done.reverse⟩ :=
  if_pos h

/-- The items that are done stand in reverse. -/
theorem finish_reverse (h : least ≤ items.length) (commit stop : Cursor) (rest : Value) :
    finish least items.reverse commit stop rest = ⟨true, commit, .list items⟩ := by
  rw [finish_of_le (by rwa [List.length_reverse]), List.reverse_reverse]

theorem le_of_finish {commit : Cursor} {rest : Value}
    (h : (finish least done commit stop rest).success = true) : least ≤ done.length := by
  unfold finish at h
  split at h
  · assumption
  · cases h

/-- A bounded repetition does the rounds that there are. -/
theorem repetitionFrom_of_rounds (h : Rounds item separator c items d) (tries : Nat) :
    repetitionFrom item separator least false (items.length + tries) done c =
      repetitionFrom item separator least false tries (items.reverse ++ done) d := by
  induction h generalizing done with
  | nil c => rw [List.length_nil, Nat.zero_add, List.reverse_nil, List.nil_append]
  | @cons c d e v items hround _ ih =>
    obtain ⟨cursor, w, hitem, hseparator⟩ := hround
    rw [List.length_cons, Nat.add_right_comm, repetitionFrom, hitem]
    simp only [Option.bind_eq_bind, Option.bind_some, hseparator, Bool.not_true,
      Bool.false_eq_true, if_false, Bool.false_and]
    rw [ih, List.reverse_cons, List.append_assoc, List.singleton_append]

/-- Where the rounds are as many as allowed, a bounded repetition matches. -/
theorem repetition_of_rounds (h : Rounds item separator start items stop)
    (hl : least ≤ items.length) :
    repetition item separator least (some items.length) start = some ⟨true, stop, .list items⟩ := by
  have hfrom : repetitionFrom item separator least false items.length [] start =
      repetitionFrom item separator least false 0 (items.reverse ++ []) stop :=
    repetitionFrom_of_rounds h 0
  rw [repetition, hfrom, repetitionFrom, List.append_nil, finish_reverse hl]
  rfl

/-- **What a bounded repetition does** where an endless one has come to an end: the same, and if
that was for want of progress, it fills up with what it would give for ever. -/
theorem repetition_of_ends (h : Ends item separator start items stop again)
    (hl : least ≤ items.length) (hm : items.length ≤ most) :
    repetition item separator least (some most) start = some ⟨true, stop,
      .list (items ++ again.elim [] (List.replicate (most - items.length)))⟩ := by
  cases h with
  | @ofItem _ _ cursor w h hitem =>
    obtain ⟨k, rfl⟩ := Nat.exists_eq_add_of_le hm
    cases k with
    | zero =>
      rw [Option.elim_none, List.append_nil]
      exact repetition_of_rounds h hl
    | succ k =>
      -- one more item is tried, and fails
      rw [repetition, repetitionFrom_of_rounds h, repetitionFrom, hitem, Option.bind_eq_bind,
        Option.bind_some]
      simp only [Bool.not_false, if_true, List.append_nil, Option.elim_none]
      rw [finish_reverse hl]
      rfl
  | @ofSeparator earlier c _ cursor v w h hitem hseparator =>
    rw [List.length_append, List.length_singleton] at hm
    obtain ⟨k, rfl⟩ := Nat.exists_eq_add_of_le hm
    rw [Nat.add_assoc, Nat.add_comm 1, repetition, repetitionFrom_of_rounds h, repetitionFrom,
      hitem]
    simp only [Option.bind_eq_bind, Option.bind_some, hseparator, Bool.not_true, Bool.not_false,
      Bool.false_eq_true, if_false, if_true, List.append_nil, Option.elim_none]
    rw [← List.reverse_concat, finish_reverse hl]
    rfl
  | @ofStandstill earlier _ v h hround =>
    have hrounds := (h.snoc hround).append (hround.replicate (most - (earlier ++ [v]).length))
    have hlength : (earlier ++ [v] ++
        List.replicate (most - (earlier ++ [v]).length) v).length = most := by
      rw [List.length_append, List.length_replicate]
      omega
    have hbounded : repetition item separator least _ start = _ :=
      repetition_of_rounds hrounds (by omega)
    rwa [hlength] at hbounded

/-! ### Endless repetitions -/

/-- At the places of a text, the step stays or moves on. -/
def MovesOn (text : String) (step : Step Option) : Prop :=
  ∀ c, Cursor.At text c → ∀ a, step c = some a → c.Reaches a.cursor

variable {text : String}

theorem movesOn_optional (h : ∀ s ∈ separator, MovesOn text s) :
    MovesOn text (optional separator) := by
  cases separator with
  | none =>
    rintro c _ _ ⟨⟩
    exact .refl c
  | some s => exact h s rfl

/-- An endless repetition that has done some rounds and may do as many more as it can need comes
to an end. It can need one for each item that it lacks, one for each character ahead, and one that
passes nothing. -/
theorem ends_of_repetitionFrom (hitem : MovesOn text item)
    (hseparator : ∀ s ∈ separator, MovesOn text s) (hc : Cursor.At text c)
    (h : Rounds item separator start done.reverse c)
    (htries : least - 1 - done.length + c.ahead.length < tries) {a : Attempt}
    (ha : repetitionFrom item separator least true tries done c = some a)
    (hs : a.success = true) :
    ∃ items again, a.value = .list items ∧ least ≤ items.length ∧
      Ends item separator start items a.cursor again := by
  induction tries generalizing done c with
  | zero => exact absurd htries (Nat.not_lt_zero _)
  | succ tries ih =>
    obtain ⟨⟨success, d, v⟩, hfirst, hrest⟩ := Option.bind_eq_some_iff.1 ha
    have hd : c.Reaches d := hitem c hc _ hfirst
    cases success with
    | false =>
      cases hrest
      have hle := le_of_finish hs
      rw [finish_of_le hle]
      exact ⟨_, none, rfl, by rwa [List.length_reverse], .ofItem h hfirst⟩
    | true =>
      obtain ⟨⟨success, e, w⟩, hsecond, hgoes⟩ := Option.bind_eq_some_iff.1 hrest
      have he : c.Reaches e := hd.trans (movesOn_optional hseparator d (hc.reaches hd) _ hsecond)
      have hreverse : (v :: done).reverse = done.reverse ++ [v] := List.reverse_cons
      cases success with
      | false =>
        cases hgoes
        have hle := le_of_finish hs
        rw [finish_of_le hle, hreverse]
        exact ⟨_, none, rfl, by simpa using hle, .ofSeparator h hfirst hsecond⟩
      | true =>
        have hround : Round item separator c v e := ⟨d, w, hfirst, hsecond⟩
        simp only [Bool.not_true, Bool.false_eq_true, if_false, Bool.true_and,
          Bool.and_eq_true, beq_iff_eq, decide_eq_true_eq] at hgoes
        split at hgoes
        · next hstill =>
          obtain ⟨hoffset, hle⟩ := hstill
          obtain rfl : e = c := (hc.reaches he).eq_of_offset_eq hc hoffset
          cases hgoes
          rw [finish_of_le hle, hreverse]
          exact ⟨_, some v, rfl, by simpa using hle, .ofStandstill h hround⟩
        · next hmore =>
          refine ih (hc.reaches he) (hreverse ▸ h.snoc hround) ?_ hgoes
          -- items are still missing, or the round has passed something
          have hahead := he.length_ahead_le
          rw [List.length_cons] at hmore ⊢
          by_cases hoffset : e.offset = c.offset
          · have : ¬least ≤ done.length + 1 := fun hle => hmore ⟨hoffset, hle⟩
            omega
          · have := he.length_ahead_lt hoffset
            omega

/-- **An endless repetition that matches has come to an end.** -/
theorem ends_of_repetition (hitem : MovesOn text item)
    (hseparator : ∀ s ∈ separator, MovesOn text s) (hstart : Cursor.At text start) {a : Attempt}
    (ha : repetition item separator least none start = some a) (hs : a.success = true) :
    ∃ items again, a.value = .list items ∧ least ≤ items.length ∧
      Ends item separator start items a.cursor again := by
  have hnone : Rounds item separator start ([] : List Value).reverse start := .nil start
  refine ends_of_repetitionFrom hitem hseparator hstart hnone ?_ ha hs
  rw [List.length_nil]
  omega

end Step

/-! ### Nodes -/

namespace Parser

variable {text : String}

theorem movesOn_step (p : Parser) (depth : Nat) (node : Node p.size) :
    Step.MovesOn text (node.step Node.matchTerminal (p.call depth)) :=
  fun c hc a ha => (Node.agree_step_of_call (p.agree_call_mono (Nat.le_refl depth)) node c hc a ha).2

theorem movesOn_stepOption (p : Parser) (depth : Nat) (separator : Option (Node p.size)) :
    ∀ s ∈ Node.stepOption Node.matchTerminal (p.call depth) separator, Step.MovesOn text s := by
  cases separator with
  | none => nofun
  | some node =>
    rintro _ ⟨⟩
    exact p.movesOn_step depth node

/-- How a repetition of nodes without an upper bound comes to an end. -/
def Ends (p : Parser) (depth : Nat) (item : Node p.size) (separator : Option (Node p.size)) :
    (start : Cursor) → (items : List Value) → (stop : Cursor) → (again : Option Value) → Prop :=
  Step.Ends (item.step Node.matchTerminal (p.call depth))
    (Node.stepOption Node.matchTerminal (p.call depth) separator)

/-- **Stopping where a round passes nothing loses nothing.** An endless repetition that matches
gives a list, and has come to an end. With an upper bound that is no less than the length of the
list, the same repetition matches from the same start and stops at the same place. It gives the same
list if the item or the separator failed in the end, and fills up the list to the bound with its
last item if the last round passed nothing. -/
theorem repetition_bounded (p : Parser) (depth : Nat) (item : Node p.size)
    (separator : Option (Node p.size)) (least : Nat) (name : Option String) {start : Cursor}
    (hstart : Cursor.At text start) {a : Attempt}
    (ha : (Node.repetition item separator least none name).step Node.matchTerminal (p.call depth)
      start = some a) (hs : a.success = true) :
    ∃ items, a.value = .list items ∧
      (∃ again, p.Ends depth item separator start items a.cursor again) ∧
      ∀ again, p.Ends depth item separator start items a.cursor again →
        ∀ most, items.length ≤ most →
          (Node.repetition item separator least (some most) name).step Node.matchTerminal
            (p.call depth) start = some ⟨true, a.cursor,
              .list (items ++ again.elim [] (List.replicate (most - items.length)))⟩ := by
  obtain ⟨items, again, hvalue, hl, hends⟩ := Step.ends_of_repetition
    (p.movesOn_step depth item) (p.movesOn_stepOption depth separator) hstart ha hs
  exact ⟨items, hvalue, ⟨again, hends⟩, fun _ h most hm => Step.repetition_of_ends h hl hm⟩

/-- The letters `x` and `é` in nested parentheses, or nothing. -/
def sampleItem : Node sample.size :=
  .choice [.reference sampleRule none false] .none none (some .null)

/-- One or more of them, with nothing in between. -/
def sampleList (most : Option Nat) : Node sample.size :=
  .repetition sampleItem (some (.sequence [] none none none)) 1 most none

/-- The second round over `x` passes nothing. -/
theorem ends_sampleList :
    sample.Ends 3 sampleItem (some (.sequence [] none none none)) (.start "(x)") [.text "x", .null]
      ⟨3, some ')', []⟩ (some .null) :=
  .ofStandstill (.cons ⟨⟨3, some ')', []⟩, .map [], by decide +kernel, by decide +kernel⟩ (.nil _))
    ⟨⟨3, some ')', []⟩, .map [], by decide +kernel, by decide +kernel⟩

theorem repetition_bounded_sample :
    Cursor.At "(x)" (.start "(x)") ∧
    (sampleList none).step Node.matchTerminal (sample.call 3) (.start "(x)") =
      some ⟨true, ⟨3, some ')', []⟩, .list [.text "x", .null]⟩ ∧
    (sampleList (some 4)).step Node.matchTerminal (sample.call 3) (.start "(x)") =
      some ⟨true, ⟨3, some ')', []⟩, .list [.text "x", .null, .null, .null]⟩ := by
  have hendless : (sampleList none).step Node.matchTerminal (sample.call 3) (.start "(x)") =
      some ⟨true, ⟨3, some ')', []⟩, .list [.text "x", .null]⟩ := by decide +kernel
  obtain ⟨items, hitems, -, hbounded⟩ :=
    repetition_bounded sample 3 _ _ 1 none (Cursor.at_start "(x)") hendless rfl
  cases hitems
  exact ⟨Cursor.at_start "(x)", hendless, hbounded _ ends_sampleList 4 (by decide)⟩

end Parser
end DataGrammar
