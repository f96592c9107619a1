import DataGrammar.Proofs.Matching.Rounds

/-!
# The course of a repetition

A repetition does one round after the other, each from where the round before it has stopped, until
there are as many items as allowed, the item fails, the separator fails, or, without an upper bound,
a round passes nothing when there are enough items. Its course is what happened: the values of the
items that matched, where the last of them and the separator after it are committed, and where it
was stopped.

* `Step.Iterates` says what courses there are.
* `Step.Closes`: what a repetition makes of its course.
* `Step.Suffices`: how many rounds are as many as a repetition can need.
* `Step.iterates_of_repetitionFrom`, `Step.repetitionFrom_of_iterates`: a repetition that comes to
  an end has a course, and its course decides what it gives.
* `Parser.repetition_iff`: a repetition of nodes gives an attempt if and only if that belongs to a
  course.
-/

namespace DataGrammar

theorem Value.isNull_iff {v : Value} : v.isNull = true ↔ v = .null := by
  cases v <;> simp [isNull]

namespace Step

variable {item : Step Option} {separator : Option (Step Option)} {least tries count : Nat}
  {most : Option Nat} {start c d commit stop : Cursor} {items done : List Value} {rest : Value}
  {a : Attempt}

/-! ### Courses -/

/-- The course of a repetition that has `count` items, from a cursor on: the values of the items
that follow, the place up to which they are committed, the place where it is stopped, and what there
is of an item that failed. -/
inductive Iterates (item : Step Option) (separator : Option (Step Option)) (least : Nat)
    (most : Option Nat) :
    (count : Nat) → Cursor → List Value → (commit stop : Cursor) → (rest : Value) → Prop
  /-- There are as many items as allowed. -/
  | full {count : Nat} {c : Cursor} (hmost : most = some count) :
      Iterates item separator least most count c [] c c .null
  /-- The item fails. -/
  | ofItem {count : Nat} {c stop : Cursor} {rest : Value} (hmost : most ≠ some count)
      (hitem : item c = some ⟨false, stop, rest⟩) :
      Iterates item separator least most count c [] c stop rest
  /-- The item matches, and the separator after it fails. -/
  | ofSeparator {count : Nat} {c commit stop : Cursor} {v w : Value} (hmost : most ≠ some count)
      (hitem : item c = some ⟨true, commit, v⟩)
      (hseparator : optional separator commit = some ⟨false, stop, w⟩) :
      Iterates item separator least most count c [v] commit stop .null
  /-- There is no upper bound, and the item and the separator match without passing anything when
  there are enough items. -/
  | standstill {count : Nat} {c : Cursor} {v : Value} (hmost : most = none)
      (hround : Round item separator c v c) (hleast : least ≤ count + 1) :
      Iterates item separator least most count c [v] c c .null
  /-- The item and the separator match, and the repetition goes on from there. -/
  | round {count : Nat} {c d commit stop : Cursor} {v rest : Value} {items : List Value}
      (hmost : most ≠ some count) (hround : Round item separator c v d)
      (hgoes : most = none → d = c → count + 1 < least)
      (hrest : Iterates item separator least most (count + 1) d items commit stop rest) :
      Iterates item separator least most count c (v :: items) commit stop rest

/-- What a repetition makes of its course. -/
inductive Closes (least : Nat) (items : List Value) (commit stop : Cursor) (rest : Value) :
    Attempt → Prop
  /-- If the items are enough, it matches as far as they are committed. -/
  | enough (h : least ≤ items.length) : Closes least items commit stop rest ⟨true, commit, .list items⟩
  /-- If they are too few, it fails where it was stopped. -/
  | tooFew (h : items.length < least) (hrest : rest = .null) :
      Closes least items commit stop rest ⟨false, stop, .list items⟩
  /-- What there is of an item that failed is listed after the others. -/
  | tooFewAndRest (h : items.length < least) (hrest : rest ≠ .null) :
      Closes least items commit stop rest ⟨false, stop, .list (items ++ [rest])⟩

/-- A course closes in one way. -/
theorem closes_iff :
    Closes least items commit stop rest a ↔ a = finish least items.reverse commit stop rest := by
  rw [finish, List.length_reverse, List.reverse_reverse]
  constructor
  · intro h
    cases h with
    | enough h => rw [if_pos h]
    | tooFew h hrest =>
      rw [if_neg (Nat.not_le.2 h), if_pos (Value.isNull_iff.2 hrest), List.append_nil]
    | tooFewAndRest h hrest =>
      rw [if_neg (Nat.not_le.2 h), if_neg (fun hnull => hrest (Value.isNull_iff.1 hnull))]
  · rintro rfl
    by_cases h : least ≤ items.length
    · rw [if_pos h]
      exact .enough h
    · rw [if_neg h]
      by_cases hrest : rest = .null
      · rw [if_pos (Value.isNull_iff.2 hrest), List.append_nil]
        exact .tooFew (Nat.not_le.1 h) hrest
      · rw [if_neg (fun hnull => hrest (Value.isNull_iff.1 hnull))]
        exact .tooFewAndRest (Nat.not_le.1 h) hrest

/-! ### How many rounds there can be -/

/-- As many more rounds as a repetition can need that has `count` items: up to the upper bound, or
one for each item that it lacks, one for each character ahead, and one that passes nothing. -/
def Suffices (least : Nat) (most : Option Nat) (count tries : Nat) (c : Cursor) : Prop :=
  match most with
  | some most => count + tries = most
  | none => least - 1 - count + c.ahead.length < tries

/-- Where no more rounds are needed, there are as many items as allowed. -/
theorem Suffices.eq_of_zero (h : Suffices least most count 0 c) : most = some count := by
  cases most with
  | none => exact absurd h (Nat.not_lt_zero _)
  | some most => exact congrArg some h.symm

theorem Suffices.zero_of_eq (h : Suffices least (some count) count tries c) : tries = 0 :=
  Nat.add_left_cancel (k := 0) h

/-- Where more items are allowed, another round is. -/
theorem Suffices.exists_succ (h : Suffices least most count tries c) (hmost : most ≠ some count) :
    ∃ more, tries = more + 1 := by
  cases tries with
  | zero => exact absurd h.eq_of_zero hmost
  | succ more => exact ⟨more, rfl⟩

theorem Suffices.ne_of_succ (h : Suffices least most count (tries + 1) c) : most ≠ some count := by
  rintro rfl
  exact absurd h (by simp [Suffices])

/-- A round that is not the last one leaves one round less. -/
theorem Suffices.round (h : Suffices least most count (tries + 1) c) (hc : c.Reaches d)
    (hgoes : most = none → d.offset = c.offset → count + 1 < least) :
    Suffices least most (count + 1) tries d := by
  cases most with
  | some most =>
    simp only [Suffices] at h ⊢
    omega
  | none =>
    simp only [Suffices] at h ⊢
    have hahead := hc.length_ahead_le
    by_cases hoffset : d.offset = c.offset
    · have := hgoes rfl hoffset
      omega
    · have := hc.length_ahead_lt hoffset
      omega

/-! ### Runs and courses -/

variable {text : String}

/-- The rounds of a repetition that comes to an end are a course. -/
theorem iterates_of_repetitionFrom (hitem : MovesOn text item)
    (hseparator : ∀ s ∈ separator, MovesOn text s) (hc : Cursor.At text c)
    (htries : Suffices least most done.length tries c)
    (ha : repetitionFrom item separator least most.isNone tries done c = some a) :
    ∃ items commit stop rest,
      Iterates item separator least most done.length c items commit stop rest ∧
      a = finish least (items.reverse ++ done) commit stop rest := by
  induction tries generalizing done c with
  | zero =>
    cases ha
    exact ⟨[], c, c, .null, .full htries.eq_of_zero, rfl⟩
  | succ tries ih =>
    obtain ⟨⟨success, d, v⟩, hfirst, hrest⟩ := Option.bind_eq_some_iff.1 ha
    have hd : c.Reaches d := hitem c hc _ hfirst
    cases success with
    | false =>
      cases hrest
      exact ⟨[], c, d, v, .ofItem htries.ne_of_succ hfirst, rfl⟩
    | true =>
      obtain ⟨⟨success, e, w⟩, hsecond, hgoes⟩ := Option.bind_eq_some_iff.1 hrest
      have he : c.Reaches e := hd.trans (movesOn_optional hseparator d (hc.reaches hd) _ hsecond)
      cases success with
      | false =>
        cases hgoes
        exact ⟨[v], d, e, .null, .ofSeparator htries.ne_of_succ hfirst hsecond, rfl⟩
      | true =>
        have hround : Round item separator c v e := ⟨d, w, hfirst, hsecond⟩
        simp only [Bool.not_true, Bool.false_eq_true, if_false, Bool.and_eq_true, beq_iff_eq,
          decide_eq_true_eq, List.length_cons, Option.isNone_iff_eq_none] at hgoes
        split at hgoes
        · next hlast =>
          obtain ⟨⟨hmost, hoffset⟩, hleast⟩ := hlast
          obtain rfl : e = c := (hc.reaches he).eq_of_offset_eq hc hoffset
          cases hgoes
          exact ⟨[v], e, e, .null, .standstill hmost hround hleast, rfl⟩
        · next hmore =>
          have hmore' : most = none → e.offset = c.offset → done.length + 1 < least :=
            fun hmost hoffset => Nat.not_le.1 fun hleast => hmore ⟨⟨hmost, hoffset⟩, hleast⟩
          have htries' : Suffices least most (v :: done).length tries e := htries.round he hmore'
          obtain ⟨items, commit, stop, rest, hcourse, rfl⟩ := ih (hc.reaches he) htries' hgoes
          refine ⟨v :: items, commit, stop, rest, .round htries.ne_of_succ hround ?_ hcourse, ?_⟩
          · exact fun hmost heq => hmore' hmost (congrArg Cursor.offset heq)
          · rw [List.reverse_cons, List.append_assoc, List.singleton_append]

/-- A round moves on. -/
theorem Round.reaches {v : Value} (h : Round item separator c v d) (hitem : MovesOn text item)
    (hseparator : ∀ s ∈ separator, MovesOn text s) (hc : Cursor.At text c) : c.Reaches d := by
  obtain ⟨e, w, hfirst, hsecond⟩ := h
  have he : c.Reaches e := hitem c hc _ hfirst
  exact he.trans (movesOn_optional hseparator e (hc.reaches he) _ hsecond)

/-- A round is the last one, or the repetition goes on behind it. -/
theorem repetitionFrom_of_round {v : Value} (h : Round item separator c v d) (endless : Bool) :
    repetitionFrom item separator least endless (tries + 1) done c =
      if endless ∧ d.offset = c.offset ∧ least ≤ done.length + 1 then
        some (finish least (v :: done) d d .null)
      else repetitionFrom item separator least endless tries (v :: done) d := by
  obtain ⟨e, w, hfirst, hsecond⟩ := h
  rw [repetitionFrom, hfirst, Option.bind_eq_bind, Option.bind_some]
  simp only [hsecond, Option.bind_some, Bool.not_true, Bool.false_eq_true, if_false,
    Bool.and_eq_true, beq_iff_eq, decide_eq_true_eq, List.length_cons, and_assoc]
  rfl

/-- **The course of a repetition decides what it gives.** -/
theorem repetitionFrom_of_iterates (hitem : MovesOn text item)
    (hseparator : ∀ s ∈ separator, MovesOn text s) (hc : Cursor.At text c)
    (h : Iterates item separator least most count c items commit stop rest)
    (hcount : done.length = count) (htries : Suffices least most count tries c) :
    repetitionFrom item separator least most.isNone tries done c =
      some (finish least (items.reverse ++ done) commit stop rest) := by
  induction h generalizing done tries with
  | full hmost =>
    subst hmost
    obtain rfl := htries.zero_of_eq
    rfl
  | ofItem hmost hfirst =>
    obtain ⟨more, rfl⟩ := htries.exists_succ hmost
    rw [repetitionFrom, hfirst]
    rfl
  | ofSeparator hmost hfirst hsecond =>
    obtain ⟨more, rfl⟩ := htries.exists_succ hmost
    rw [repetitionFrom, hfirst, Option.bind_eq_bind, Option.bind_some]
    simp only [hsecond, Option.bind_some]
    rfl
  | @standstill count c v hmost hround hleast =>
    obtain ⟨more, rfl⟩ := htries.exists_succ (hmost.trans_ne (Option.some_ne_none count).symm)
    rw [repetitionFrom_of_round hround, hcount, if_pos ⟨by rw [hmost]; rfl, rfl, hleast⟩]
    rfl
  | @round count c d commit stop v rest items hmost hround hgoes _ ih =>
    obtain ⟨more, rfl⟩ := htries.exists_succ hmost
    have hreach := hround.reaches hitem hseparator hc
    have hgoes' : most = none → d.offset = c.offset → count + 1 < least := fun hnone heq =>
      hgoes hnone ((hc.reaches hreach).eq_of_offset_eq hc heq)
    have hmore : ¬(most.isNone = true ∧ d.offset = c.offset ∧ least ≤ done.length + 1) := by
      rintro ⟨hnone, heq, hleast⟩
      have := hgoes' (Option.isNone_iff_eq_none.1 hnone) heq
      omega
    have hcount' : (v :: done).length = count + 1 := congrArg Nat.succ hcount
    rw [repetitionFrom_of_round hround, if_neg hmore,
      ih (hc.reaches hreach) hcount' (htries.round hreach hgoes'), List.reverse_cons,
      List.append_assoc, List.singleton_append]

/-- A repetition may do as many rounds as it can need. -/
theorem exists_suffices (item : Step Option) (separator : Option (Step Option)) (least : Nat)
    (most : Option Nat) (start : Cursor) :
    ∃ tries, Suffices least most 0 tries start ∧ repetition item separator least most start =
      repetitionFrom item separator least most.isNone tries [] start := by
  cases most with
  | some most => exact ⟨most, Nat.zero_add most, rfl⟩
  | none =>
    refine ⟨_, ?_, rfl⟩
    simp only [Suffices]
    omega

/-- **A repetition gives what its course closes with, and nothing else.** -/
theorem repetition_eq_some_iff (hitem : MovesOn text item)
    (hseparator : ∀ s ∈ separator, MovesOn text s) (hstart : Cursor.At text start) :
    repetition item separator least most start = some a ↔ ∃ items commit stop rest,
      Iterates item separator least most 0 start items commit stop rest ∧
      Closes least items commit stop rest a := by
  obtain ⟨tries, htries, hrun⟩ := exists_suffices item separator least most start
  rw [hrun]
  constructor
  · intro ha
    obtain ⟨items, commit, stop, rest, hcourse, hfinish⟩ :=
      iterates_of_repetitionFrom hitem hseparator hstart htries ha
    rw [List.append_nil] at hfinish
    exact ⟨items, commit, stop, rest, hcourse, closes_iff.2 hfinish⟩
  · rintro ⟨items, commit, stop, rest, hcourse, hcloses⟩
    rw [repetitionFrom_of_iterates hitem hseparator hstart hcourse rfl htries, List.append_nil,
      closes_iff.1 hcloses]

/-- There are no more items than allowed, and an item that failed was one of those. -/
theorem Iterates.le_most {k : Nat}
    (h : Iterates item separator least (some k) count c items commit stop rest) (hle : count ≤ k) :
    count + items.length ≤ k ∧ (rest ≠ .null → count + items.length < k) := by
  have hlt {count : Nat} (hle : count ≤ k) (hmost : some k ≠ some count) : count < k :=
    Nat.lt_of_le_of_ne hle fun heq => hmost (congrArg some heq.symm)
  induction h with
  | full hmost => exact ⟨hle, fun hrest => absurd rfl hrest⟩
  | ofItem hmost hfirst => exact ⟨hle, fun _ => hlt hle hmost⟩
  | ofSeparator hmost hfirst hsecond => exact ⟨hlt hle hmost, fun hrest => absurd rfl hrest⟩
  | standstill hmost hround hleast => cases hmost
  | round hmost hround hgoes _ ih =>
    rw [List.length_cons, ← Nat.add_assoc, Nat.add_right_comm]
    exact ih (hlt hle hmost)

/-- The list of a repetition is no longer than allowed, and no shorter than it must be to match. -/
theorem exists_list_of_closes (h : Iterates item separator least most 0 c items commit stop rest)
    (hcloses : Closes least items commit stop rest a) :
    ∃ values, a.value = .list values ∧ (a.success = true → least ≤ values.length) ∧
      ∀ k, most = some k → values.length ≤ k := by
  cases hcloses with
  | enough hleast =>
    refine ⟨items, rfl, fun _ => hleast, ?_⟩
    rintro k rfl
    have := (h.le_most (Nat.zero_le k)).1
    omega
  | tooFew hless hrest =>
    refine ⟨items, rfl, nofun, ?_⟩
    rintro k rfl
    have := (h.le_most (Nat.zero_le k)).1
    omega
  | tooFewAndRest hless hrest =>
    refine ⟨items ++ [rest], rfl, nofun, ?_⟩
    rintro k rfl
    have := (h.le_most (Nat.zero_le k)).2 hrest
    rw [List.length_append, List.length_singleton]
    omega

end Step

namespace Parser

variable {p : Parser} {depth : Nat} {item : Node p.size} {separator : Option (Node p.size)}
  {least : Nat} {most : Option Nat} {name : Option String} {text : String} {start : Cursor}
  {a : Attempt}

/-- The course of a repetition of nodes: its item is run again and again, each time from where the
item before it, or the separator after that, has stopped. -/
def Iterates (p : Parser) (depth : Nat) (item : Node p.size) (separator : Option (Node p.size))
    (least : Nat) (most : Option Nat) (start : Cursor) :
    List Value → (commit stop : Cursor) → (rest : Value) → Prop :=
  Step.Iterates (item.step Node.matchTerminal (p.call depth))
    (Node.stepOption Node.matchTerminal (p.call depth) separator) least most 0 start

/-- A repetition of nodes that gives an attempt has a course that closes with it, and the other way
round. -/
theorem step_repetition_eq_some_iff (hstart : Cursor.At text start) :
    (Node.repetition item separator least most name).step Node.matchTerminal (p.call depth) start =
        some a ↔
      ∃ items commit stop rest,
        p.Iterates depth item separator least most start items commit stop rest ∧
        Step.Closes least items commit stop rest a :=
  Step.repetition_eq_some_iff (p.movesOn_step depth item) (p.movesOn_stepOption depth separator)
    hstart

/-- **A repetition of nodes gives what its course closes with.** It matches if and only if there are
enough items, and stops behind the last item or the separator that matched after it; a separator or
an item that failed then leaves no trace. Otherwise it fails where it was stopped, and what there is
of the item that failed is listed last. The list is never longer than allowed, so a repetition that
must have more items than it may have does not match. -/
theorem repetition_iff (p : Parser) (depth : Nat) (item : Node p.size)
    (separator : Option (Node p.size)) (least : Nat) (most : Option Nat) (name : Option String)
    {text : String} {start : Cursor} (hstart : Cursor.At text start) :
    (∀ a, (Node.repetition item separator least most name).step Node.matchTerminal (p.call depth)
        start = some a ↔
      ∃ items commit stop rest,
        p.Iterates depth item separator least most start items commit stop rest ∧
        Step.Closes least items commit stop rest a) ∧
    ∀ a, (Node.repetition item separator least most name).step Node.matchTerminal (p.call depth)
        start = some a →
      (∃ values, a.value = .list values ∧ (a.success = true → least ≤ values.length) ∧
        ∀ k, most = some k → values.length ≤ k) ∧
      ∀ k, most = some k → k < least → a.success = false := by
  refine ⟨fun a => step_repetition_eq_some_iff hstart, fun a ha => ?_⟩
  obtain ⟨items, commit, stop, rest, hcourse, hcloses⟩ := (step_repetition_eq_some_iff hstart).1 ha
  obtain ⟨values, hvalues, hleast, hmost⟩ := Step.exists_list_of_closes hcourse hcloses
  refine ⟨⟨values, hvalues, hleast, hmost⟩, fun k hk hless => ?_⟩
  by_contra hsuccess
  have hle := hleast (Bool.not_eq_false _ ▸ hsuccess)
  have := hmost k hk
  omega

/-- The rule `expr` of the sample. -/
def sampleExpr : Node sample.size := .reference sampleRule none false

/-- The rule `expr` of the sample, separated by itself. -/
def sampleSeries (least : Nat) (most : Option Nat) : Node sample.size :=
  .repetition sampleExpr (some sampleExpr) least most none

/-- The separator after the first item is committed, and the second item fails behind it. -/
theorem iterates_sampleSeries (least : Nat) :
    sample.Iterates 3 sampleExpr (some sampleExpr) least none (.start "(x)(é)(") [.text "x"]
      ⟨7, some ')', ['(']⟩ ⟨8, some '(', []⟩ (.map []) :=
  .round nofun ⟨⟨3, some ')', ['(', 'é', ')', '(']⟩, .text "é", by decide +kernel, by decide +kernel⟩
    (fun _ heq => absurd heq (by decide)) (.ofItem nofun (by decide +kernel))

/-- Where one item is enough, the second one leaves no trace. Where two are needed, the list ends
with what there is of it. Where one is allowed, two are never enough. -/
theorem repetition_iff_sample :
    Cursor.At "(x)(é)(" (.start "(x)(é)(") ∧
    (sampleSeries 1 none).step Node.matchTerminal (sample.call 3) (.start "(x)(é)(") =
      some ⟨true, ⟨7, some ')', ['(']⟩, .list [.text "x"]⟩ ∧
    (sampleSeries 2 none).step Node.matchTerminal (sample.call 3) (.start "(x)(é)(") =
      some ⟨false, ⟨8, some '(', []⟩, .list [.text "x", .map []]⟩ ∧
    ∃ a, (sampleSeries 2 (some 1)).step Node.matchTerminal (sample.call 3) (.start "(x)(é)(") =
      some a ∧ a.success = false := by
  have hstart := Cursor.at_start "(x)(é)("
  have hone := ((repetition_iff sample 3 sampleExpr (some sampleExpr) 1 none none hstart).1 _).2
    ⟨_, _, _, _, iterates_sampleSeries 1, .enough (Nat.le_refl 1)⟩
  have htwo := ((repetition_iff sample 3 sampleExpr (some sampleExpr) 2 none none hstart).1 _).2
    ⟨_, _, _, _, iterates_sampleSeries 2, .tooFewAndRest (Nat.lt_succ_self 1) nofun⟩
  have hrun : (sampleSeries 2 (some 1)).step Node.matchTerminal (sample.call 3)
      (.start "(x)(é)(") = some ⟨false, ⟨7, some ')', ['(']⟩, .list [.text "x"]⟩ := by
    decide +kernel
  have hnever := (repetition_iff sample 3 sampleExpr (some sampleExpr) 2 (some 1) none hstart).2 _
    hrun
  exact ⟨hstart, hone, htwo, _, hrun, hnever.2 1 rfl (Nat.lt_succ_self 1)⟩

end Parser
end DataGrammar
